import Mathlib.Data.List.Basic
import Mathlib.Data.List.Induction
import Mathlib.Data.List.Nodup
import Mathlib.Data.Option.Basic
import Mathlib.Tactic.Lemma
import Cutscene.Dictionary

set_option relaxedAutoImplicit false
set_option autoImplicit false

/-!
# Laws of dictionaries

What is found in a list of entries is the first value of the key, and what is left of a list that is
written into a dictionary is the last one. The laws of dictionaries that are built from lists,
written over one another or struck out follow from these two, since dictionaries with the same
values are the same.

## Main definitions

* `Cutscene.Dictionary.overlayAll` — writes dictionaries over one another.
* `Cutscene.Dictionary.only` — the entries with keys among some.
* `Cutscene.Dictionary.map` — each value changed.

## Main results

* `Cutscene.Dictionary.lookup_eq_some_iff` — what is looked up is the first value of the key.
* `Cutscene.Dictionary.get?_ofList` — the dictionary of a list holds the last value of each key.
* `Cutscene.Dictionary.size_ofList` — it has fewer entries than the list if a key is repeated.
* `Cutscene.Dictionary.ofList_perm` — with distinct keys, the order of a list does not matter.
* `Cutscene.Dictionary.get?_overlay` — a dictionary that is written over another goes first.
* `Cutscene.Dictionary.get?_overlayAll` — the last value that is written counts.
* `Cutscene.Dictionary.overlayAll_overlayAll` — writing a part before the whole changes nothing.
* `Cutscene.Dictionary.only_overlay` — what is struck out of two dictionaries is struck out of the
  one written over the other.

## Design

Keys are picked by a function into the Booleans, so that what is left of a dictionary can be
computed.
-/

namespace Cutscene

namespace Dictionary

variable {α β : Type} {key : String} {value : α} {entries other more : List (String × α)}
  {d e : Dictionary α}

/-! ## Looking entries up -/

lemma lookup_append :
    lookup key (entries ++ more) = (lookup key entries).or (lookup key more) := by
  induction entries with
  | nil => rfl
  | cons entry entries ih =>
    simp only [List.cons_append, lookup, ih]
    split <;> rfl

lemma lookup_filter (names : String → Bool) (key : String) (entries : List (String × α)) :
    lookup key (entries.filter fun e => names e.1) =
      if names key then lookup key entries else none := by
  induction entries with
  | nil => simp [lookup]
  | cons entry entries ih =>
    obtain ⟨k, v⟩ := entry
    by_cases hk : k = key
    · subst hk
      cases hnames : names k <;> simp [lookup, hnames, ih]
    · cases hnames : names k <;> simp [lookup, hnames, hk, ih]

lemma lookup_map (f : α → β) (key : String) (entries : List (String × α)) :
    lookup key (entries.map fun e => (e.1, f e.2)) = (lookup key entries).map f := by
  induction entries with
  | nil => rfl
  | cons entry entries ih =>
    simp only [List.map_cons, lookup, ih]
    split <;> rfl

/-- A value that is found is that of an entry. -/
lemma mem_of_lookup (h : lookup key entries = some value) : (key, value) ∈ entries := by
  induction entries with
  | nil => cases h
  | cons entry entries ih =>
    obtain ⟨k, v⟩ := entry
    simp only [lookup] at h
    split at h
    next hk =>
      cases h
      rw [hk]
      exact List.mem_cons_self
    next => exact List.mem_cons_of_mem _ (ih h)

/-- The key of an entry has a value. -/
lemma isSome_lookup {entry : String × α} (h : entry ∈ entries) :
    (lookup entry.1 entries).isSome = true := by
  induction entries with
  | nil => cases h
  | cons first entries ih =>
    rw [lookup]
    split
    next => rfl
    next hne =>
      rcases List.mem_cons.1 h with rfl | h
      · exact absurd rfl hne
      · exact ih h

/-- What is looked up is the first value of the key. -/
lemma lookup_eq_some_iff : lookup key entries = some value ↔
    ∃ before after, entries = before ++ (key, value) :: after ∧ ∀ e ∈ before, e.1 ≠ key := by
  constructor
  · intro h
    induction entries with
    | nil => cases h
    | cons entry entries ih =>
      obtain ⟨k, v⟩ := entry
      simp only [lookup] at h
      split at h
      next hk =>
        cases h
        exact ⟨[], entries, by rw [hk]; rfl, fun e he => absurd he List.not_mem_nil⟩
      next hk =>
        obtain ⟨before, after, rfl, hbefore⟩ := ih h
        exact ⟨(k, v) :: before, after, rfl, List.forall_mem_cons.2 ⟨hk, hbefore⟩⟩
  · rintro ⟨before, after, rfl, hbefore⟩
    have hnone : lookup key before = none := by
      rw [Option.eq_none_iff_forall_ne_some]
      exact fun v hv => hbefore _ (mem_of_lookup hv) rfl
    rw [lookup_append, hnone, Option.none_or, lookup, if_pos rfl]

/-- With distinct keys, what is looked up are the entries. -/
lemma lookup_eq_some_iff_mem (h : (entries.map Prod.fst).Nodup) :
    lookup key entries = some value ↔ (key, value) ∈ entries := by
  refine ⟨mem_of_lookup, fun hmem => ?_⟩
  obtain ⟨found, hfound⟩ := Option.isSome_iff_exists.1 (isSome_lookup hmem)
  have hsame : (key, found) = (key, value) :=
    List.inj_on_of_nodup_map h (mem_of_lookup hfound) hmem rfl
  rw [hfound, (Prod.mk.inj hsame).2]

/-- With distinct keys, they may be looked up from either end. -/
lemma lookup_reverse (h : (entries.map Prod.fst).Nodup) (key : String) :
    lookup key entries.reverse = lookup key entries := by
  have hreverse : (entries.reverse.map Prod.fst).Nodup := by
    rwa [List.map_reverse, List.nodup_reverse]
  refine Option.ext fun value => ?_
  rw [lookup_eq_some_iff_mem hreverse, lookup_eq_some_iff_mem h, List.mem_reverse]

/-! ## Entries of a dictionary -/

/-- No key of a dictionary comes twice. -/
lemma nodup_keys (d : Dictionary α) : (d.entries.map Prod.fst).Nodup := by
  refine List.pairwise_map.2 (d.sorted.imp fun {first second} hlt heq => ?_)
  rw [heq] at hlt
  exact String.lt_irrefl _ hlt

/-- The entry of a key is found under it. -/
lemma get?_of_mem {entry : String × α} (h : entry ∈ d.entries) : d.get? entry.1 = some entry.2 :=
  (lookup_eq_some_iff_mem d.nodup_keys).2 h

/-- A key has a value exactly if it is that of an entry. -/
lemma contains_iff : d.contains key = true ↔ ∃ entry ∈ d.entries, entry.1 = key := by
  constructor
  · intro h
    obtain ⟨value, hvalue⟩ := Option.isSome_iff_exists.1 h
    exact ⟨(key, value), mem_of_lookup hvalue, rfl⟩
  · rintro ⟨entry, hentry, rfl⟩
    exact isSome_lookup hentry

/-- An entry of a dictionary that others are written to is one of either. -/
lemma mem_entries_insertMany {entry : String × α}
    (h : entry ∈ (d.insertMany entries).entries) : entry ∈ entries ∨ entry ∈ d.entries := by
  induction entries generalizing d with
  | nil => exact Or.inr h
  | cons first entries ih =>
    rcases ih h with h | h
    · exact Or.inl (List.mem_cons_of_mem _ h)
    · rcases mem_put h with rfl | h
      · exact Or.inl List.mem_cons_self
      · exact Or.inr h

/-- What is in the dictionary of a list is in the list. -/
lemma mem_of_mem_ofList {entry : String × α} (h : entry ∈ (ofList entries).entries) :
    entry ∈ entries := (mem_entries_insertMany h).resolve_right List.not_mem_nil

/-! ## Writing entries -/

lemma insertMany_append (d : Dictionary α) (entries more : List (String × α)) :
    d.insertMany (entries ++ more) = (d.insertMany entries).insertMany more := List.foldl_append

/-- The last value that is written to a key goes before the one that was there. -/
lemma get?_insertMany (d : Dictionary α) (entries : List (String × α)) (key : String) :
    (d.insertMany entries).get? key = (lookup key entries.reverse).or (d.get? key) := by
  induction entries using List.reverseRecOn with
  | nil => rfl
  | append_singleton entries entry ih =>
    rw [insertMany_append, List.reverse_append]
    refine (get?_insert ..).trans ?_
    rw [ih, lookup_append, List.reverse_singleton, lookup, lookup]
    split <;> rfl

/-- **The dictionary of a list holds the last value of each key.** -/
theorem get?_ofList (entries : List (String × α)) (key : String) :
    (ofList entries).get? key = lookup key entries.reverse := by
  rw [ofList, get?_insertMany, get?_empty, Option.or_none]

/-- A dictionary is that of its own entries. -/
lemma ofList_entries (d : Dictionary α) : ofList d.entries = d :=
  ext_get? fun key => (get?_ofList _ key).trans (lookup_reverse d.nodup_keys key)

/-- The value of a key is that of the last entry with the key. -/
lemma get?_ofList_eq_some_iff : (ofList entries).get? key = some value ↔
    ∃ before after, entries = before ++ (key, value) :: after ∧ ∀ e ∈ after, e.1 ≠ key := by
  rw [get?_ofList, lookup_eq_some_iff]
  constructor
  · rintro ⟨before, after, hsplit, hbefore⟩
    refine ⟨after.reverse, before.reverse, ?_, fun e he => hbefore e (List.mem_reverse.1 he)⟩
    rw [← List.reverse_reverse entries, hsplit]
    simp
  · rintro ⟨before, after, rfl, hafter⟩
    exact ⟨after.reverse, before.reverse, by simp, fun e he => hafter e (List.mem_reverse.1 he)⟩

/-- The keys that have a value are those in the list. -/
lemma contains_ofList_iff : (ofList entries).contains key = true ↔ key ∈ entries.map Prod.fst := by
  rw [contains, get?_ofList]
  constructor
  · intro h
    obtain ⟨value, hvalue⟩ := Option.isSome_iff_exists.1 h
    exact List.mem_map.2 ⟨_, List.mem_reverse.1 (mem_of_lookup hvalue), rfl⟩
  · intro h
    obtain ⟨entry, hentry, rfl⟩ := List.mem_map.1 h
    exact isSome_lookup (List.mem_reverse.2 hentry)

/-- An entry whose key comes again later makes no difference. -/
lemma ofList_erase {before after : List (String × α)} {entry : String × α}
    (h : ∃ e ∈ after, e.1 = entry.1) :
    ofList (before ++ entry :: after) = ofList (before ++ after) := by
  refine ext_get? fun key => ?_
  simp only [get?_ofList, List.reverse_append, List.reverse_cons, List.append_assoc, lookup_append,
    lookup]
  by_cases hkey : entry.1 = key
  · obtain ⟨e, he, hsame⟩ := h
    have hsome : (lookup key after.reverse).isSome = true :=
      hsame.trans hkey ▸ isSome_lookup (List.mem_reverse.2 he)
    obtain ⟨value, hvalue⟩ := Option.isSome_iff_exists.1 hsome
    rw [hvalue, Option.some_or, Option.some_or]
  · rw [if_neg hkey, Option.none_or]

/-! ## Distinct keys -/

lemma get?_ofList_eq_some_iff_mem (h : (entries.map Prod.fst).Nodup) :
    (ofList entries).get? key = some value ↔ (key, value) ∈ entries := by
  rw [get?_ofList, lookup_reverse h, lookup_eq_some_iff_mem h]

/-- With distinct keys, the dictionary of a list has the entries of the list. -/
lemma mem_entries_ofList {entry : String × α} (h : (entries.map Prod.fst).Nodup) :
    entry ∈ (ofList entries).entries ↔ entry ∈ entries := by
  rw [← get?_ofList_eq_some_iff_mem h]
  exact ⟨get?_of_mem, mem_of_lookup⟩

/-- **With distinct keys, the order of a list does not matter.** -/
theorem ofList_perm (hperm : entries.Perm other) (h : (entries.map Prod.fst).Nodup) :
    ofList entries = ofList other := by
  refine ext_get? fun key => Option.ext fun value => ?_
  rw [get?_ofList_eq_some_iff_mem h,
    get?_ofList_eq_some_iff_mem ((hperm.map Prod.fst).nodup_iff.1 h), hperm.mem_iff]

/-! ## Changing values -/

/-- Each value changed. -/
def map (f : α → β) (d : Dictionary α) : Dictionary β :=
  ⟨d.entries.map fun e => (e.1, f e.2), List.pairwise_map.2 d.sorted⟩

lemma get?_map (f : α → β) (d : Dictionary α) (key : String) :
    (d.map f).get? key = (d.get? key).map f := lookup_map f key d.entries

@[simp] lemma size_map (f : α → β) (d : Dictionary α) : (d.map f).size = d.size :=
  List.length_map _

/-! ## The number of entries -/

/-- Writing an entry makes a list longer by one, unless the key is there. -/
lemma length_put (h : entries.Pairwise (·.1 < ·.1)) :
    (put key value entries).length + (lookup key entries).toList.length = entries.length + 1 := by
  induction entries with
  | nil => rfl
  | cons entry entries ih =>
    obtain ⟨hhead, htail⟩ := List.pairwise_cons.1 h
    simp only [put, lookup]
    split
    next hlt =>
      -- The key is below all that there are.
      have hne : entry.1 ≠ key := fun he => String.lt_irrefl _ (he ▸ hlt)
      rw [if_neg hne, lookup_eq_none fun e he => String.lt_trans hlt (hhead e he)]
      rfl
    next =>
      split
      next heq => rw [if_pos heq.symm]; rfl
      next hne =>
        rw [if_neg (Ne.symm hne), List.length_cons, List.length_cons, ← ih htail]
        omega

/-- **A list has as many entries as its dictionary exactly if no key is repeated**, and otherwise
more. -/
theorem size_ofList (entries : List (String × α)) : (ofList entries).size ≤ entries.length ∧
    ((ofList entries).size = entries.length ↔ (entries.map Prod.fst).Nodup) := by
  induction entries using List.reverseRecOn with
  | nil => exact ⟨Nat.le_refl _, by simp [ofList, insertMany, size, empty]⟩
  | append_singleton entries entry ih =>
    obtain ⟨hle, hiff⟩ := ih
    have hsize : (ofList (entries ++ [entry])).size +
        ((ofList entries).get? entry.1).toList.length = (ofList entries).size + 1 := by
      rw [ofList, insertMany_append]
      exact length_put (ofList entries).sorted
    have hnodup : ((entries ++ [entry]).map Prod.fst).Nodup ↔
        (entries.map Prod.fst).Nodup ∧ (ofList entries).get? entry.1 = none := by
      rw [List.map_append, List.map_singleton, ← List.concat_eq_append, List.nodup_concat,
        ← contains_ofList_iff, contains, Option.not_isSome_iff_eq_none]
      exact and_comm
    rw [hnodup, ← hiff, List.length_append, List.length_singleton]
    cases hget : (ofList entries).get? entry.1 with
    | none =>
      rw [hget, Option.toList_none, List.length_nil] at hsize
      exact ⟨by omega, by rw [and_iff_left rfl]; omega⟩
    | some value =>
      rw [hget, Option.toList_some, List.length_singleton] at hsize
      refine ⟨by omega, ⟨fun h => ?_, fun h => absurd h.2 (Option.some_ne_none value)⟩⟩
      omega

/-- Dictionaries with the same keys have as many entries. -/
lemma size_eq_of_contains {e : Dictionary β}
    (h : ∀ key, d.contains key = true ↔ e.contains key = true) : d.size = e.size := by
  -- With their values struck out, the two are the same.
  have hsame : d.map (fun _ => ()) = e.map fun _ => () := by
    refine ext_get? fun key => ?_
    have hkey := h key
    rw [get?_map, get?_map]
    simp only [contains] at hkey
    cases hd : d.get? key <;> cases he : e.get? key <;> simp_all
  rw [← d.size_map fun _ => (), hsame, size_map]

/-! ## Writing dictionaries over one another -/

/-- A dictionary that is written over another is looked up first. -/
theorem get?_overlay (d other : Dictionary α) (key : String) :
    (d.overlay other).get? key = (other.get? key).or (d.get? key) := by
  rw [overlay, get?_insertMany, lookup_reverse other.nodup_keys]
  rfl

/-- Writes dictionaries over one another, the first one first. -/
def overlayAll (d : Dictionary α) (others : List (Dictionary α)) : Dictionary α :=
  others.foldl overlay d

@[simp] lemma overlayAll_nil (d : Dictionary α) : d.overlayAll [] = d := rfl

@[simp] lemma overlayAll_cons (d other : Dictionary α) (others : List (Dictionary α)) :
    d.overlayAll (other :: others) = (d.overlay other).overlayAll others := rfl

lemma overlayAll_append (d : Dictionary α) (others more : List (Dictionary α)) :
    d.overlayAll (others ++ more) = (d.overlayAll others).overlayAll more := List.foldl_append

/-- The value of a key is the last that is written. -/
theorem get?_overlayAll (d : Dictionary α) (others : List (Dictionary α)) (key : String) :
    (d.overlayAll others).get? key =
      (others.reverse.findSome? fun other => other.get? key).or (d.get? key) := by
  induction others generalizing d with
  | nil => rfl
  | cons other others ih =>
    have hlone : [other].findSome? (fun other => other.get? key) = other.get? key := by
      cases h : other.get? key <;> simp [List.findSome?, h]
    rw [overlayAll_cons, ih, get?_overlay, List.reverse_cons, List.findSome?_append, hlone,
      Option.or_assoc]

/-- A key that is never written keeps its value. -/
theorem get?_overlayAll_of_forall {others : List (Dictionary α)} {key : String}
    (h : ∀ other ∈ others, other.contains key = false) (d : Dictionary α) :
    (d.overlayAll others).get? key = d.get? key := by
  have hnone : (others.reverse.findSome? fun other => other.get? key) = none := by
    rw [List.findSome?_eq_none_iff]
    intro other hmem
    simpa [contains] using h other (List.mem_reverse.1 hmem)
  rw [get?_overlayAll, hnone, Option.none_or]

/-- **Writing a part before the whole changes nothing.**

**Proof sketch.** A key that some part has a value for is written by the whole; any other key is
never written by the part. -/
theorem overlayAll_overlayAll {part whole : List (Dictionary α)} (h : part ⊆ whole)
    (d : Dictionary α) : (d.overlayAll part).overlayAll whole = d.overlayAll whole := by
  refine ext_get? fun key => ?_
  rw [get?_overlayAll, get?_overlayAll d whole]
  cases hlast : whole.reverse.findSome? fun other => other.get? key with
  | some value => rfl
  | none =>
    have hpart : ∀ other ∈ part, other.contains key = false := by
      intro other hmem
      have hwhole := List.findSome?_eq_none_iff.1 hlast other (List.mem_reverse.2 (h hmem))
      simpa [contains] using hwhole
    rw [get?_overlayAll_of_forall hpart]

/-! ## Picking entries -/

/-- The entries with keys among some. -/
def only (names : String → Bool) (d : Dictionary α) : Dictionary α :=
  ⟨d.entries.filter fun e => names e.1, d.sorted.filter _⟩

/-- A key that is not picked has no value any more. -/
lemma get?_only (names : String → Bool) (d : Dictionary α) (key : String) :
    (d.only names).get? key = if names key then d.get? key else none :=
  lookup_filter names key d.entries

/-- Dictionaries are the same among some keys if they have the same values at these. -/
lemma only_eq_only_iff {names : String → Bool} :
    d.only names = e.only names ↔ ∀ key, names key = true → d.get? key = e.get? key := by
  constructor
  · intro h key hkey
    have hget := congrArg (fun d => get? d key) h
    simpa [get?_only, hkey] using hget
  · intro h
    refine ext_get? fun key => ?_
    rw [get?_only, get?_only]
    split
    · next hkey => exact h key hkey
    · rfl

/-- Keys are struck out of a dictionary and of what is written over it. -/
lemma only_overlay (names : String → Bool) (d other : Dictionary α) :
    (d.overlay other).only names = (d.only names).overlay (other.only names) := by
  refine ext_get? fun key => ?_
  simp only [get?_only, get?_overlay]
  split <;> rfl

end Dictionary

end Cutscene
