set_option relaxedAutoImplicit false
set_option autoImplicit false

/-!
# Dictionaries

A dictionary maps strings to values and keeps its entries in the order of their keys, each key
once. Scenes by name, the steps of a script by scene and the display variables are all
dictionaries, and whatever lists them lists them in this order.

Strings are compared code point by code point.

## Main definitions

* `Cutscene.Dictionary` — the type; the order of the keys is part of it.
* `Cutscene.Dictionary.get?` — the value of a key: the view through which the operations speak.
* `Cutscene.Dictionary.insert`, `Cutscene.Dictionary.overlay`, `Cutscene.Dictionary.ofList` —
  writing one entry, many entries, and building from a list in which the last mention of a key
  wins.

## Main results

* `Cutscene.Dictionary.get?_insert` — a write changes its own key and no other.
* `Cutscene.Dictionary.ext_get?` — dictionaries with the same values at all keys are equal.
-/

namespace Cutscene

/-- Entries in the order of their keys, each key once. -/
structure Dictionary (α : Type) where
  /-- The entries, least key first. -/
  entries : List (String × α)
  /-- The keys strictly increase. -/
  sorted : entries.Pairwise (·.1 < ·.1)

namespace Dictionary

variable {α : Type}

/-! ## Entries as a list -/

/-- The value that a list of entries holds for a key. -/
def lookup (key : String) : List (String × α) → Option α
  | [] => none
  | (k, v) :: rest => if k = key then some v else lookup key rest

/-- Writes an entry into its place, over the entry of the same key if there is one. -/
def put (key : String) (value : α) : List (String × α) → List (String × α)
  | [] => [(key, value)]
  | (k, v) :: rest =>
    if key < k then (key, value) :: (k, v) :: rest
    else if key = k then (key, value) :: rest
    else (k, v) :: put key value rest

theorem mem_put {key : String} {value : α} {entry : String × α} {l : List (String × α)}
    (h : entry ∈ put key value l) : entry = (key, value) ∨ entry ∈ l := by
  induction l with
  | nil => simpa [put] using h
  | cons hd tl ih =>
    simp only [put] at h
    split at h
    · simpa using h
    · split at h
      · rcases List.mem_cons.1 h with h | h
        · exact Or.inl h
        · exact Or.inr (List.mem_cons_of_mem _ h)
      · rcases List.mem_cons.1 h with h | h
        · exact Or.inr (h ▸ List.mem_cons_self ..)
        · rcases ih h with h | h
          · exact Or.inl h
          · exact Or.inr (List.mem_cons_of_mem _ h)

theorem sorted_put (key : String) (value : α) {l : List (String × α)}
    (h : l.Pairwise (·.1 < ·.1)) : (put key value l).Pairwise (·.1 < ·.1) := by
  induction l with
  | nil => simp [put]
  | cons hd tl ih =>
    obtain ⟨hhd, htl⟩ := List.pairwise_cons.1 h
    simp only [put]
    split
    next hlt =>
      refine List.pairwise_cons.2 ⟨fun b hb => ?_, h⟩
      rcases List.mem_cons.1 hb with rfl | hb
      · exact hlt
      · exact String.lt_trans hlt (hhd b hb)
    next hlt =>
      split
      next heq => subst heq; exact List.pairwise_cons.2 ⟨hhd, htl⟩
      next hne =>
        refine List.pairwise_cons.2 ⟨fun b hb => ?_, ih htl⟩
        rcases mem_put hb with rfl | hb
        · rcases Classical.em (hd.1 < key) with hgt | hle
          · exact hgt
          · exact absurd (String.le_antisymm hle hlt) hne
        · exact hhd b hb

theorem lookup_put (key other : String) (value : α) (l : List (String × α)) :
    lookup other (put key value l) = if key = other then some value else lookup other l := by
  induction l with
  | nil => simp [put, lookup]
  | cons hd tl ih =>
    simp only [put]
    split
    · simp [lookup]
    · split
      next heq => subst heq; by_cases h : hd.1 = other <;> simp [lookup, h]
      next hne =>
        simp only [lookup, ih]
        by_cases h : hd.1 = other
        · have : key ≠ other := fun e => hne (e.trans h.symm)
          simp [h, this]
        · simp [h]

/-! ## Operations -/

/-- The dictionary without entries. -/
def empty : Dictionary α := ⟨[], List.Pairwise.nil⟩

instance : Inhabited (Dictionary α) := ⟨empty⟩

/-- The value of a key. -/
def get? (d : Dictionary α) (key : String) : Option α := lookup key d.entries

/-- Whether a key has a value. -/
def contains (d : Dictionary α) (key : String) : Bool := (d.get? key).isSome

/-- Writes a value at a key, over the old one if there is one. -/
def insert (d : Dictionary α) (key : String) (value : α) : Dictionary α :=
  ⟨put key value d.entries, sorted_put key value d.sorted⟩

/-- Writes entries one after the other. -/
def insertMany (d : Dictionary α) (entries : List (String × α)) : Dictionary α :=
  entries.foldl (fun d e => d.insert e.1 e.2) d

/-- The dictionary of a list of entries; of two entries with one key the later counts. -/
def ofList (entries : List (String × α)) : Dictionary α := empty.insertMany entries

/-- Writes every entry of another dictionary, and leaves the remaining keys alone. -/
def overlay (d other : Dictionary α) : Dictionary α := d.insertMany other.entries

/-- The keys, least first. -/
def keys (d : Dictionary α) : List String := d.entries.map (·.1)

/-- The values, in the order of their keys. -/
def values (d : Dictionary α) : List α := d.entries.map (·.2)

/-- The number of entries. -/
def size (d : Dictionary α) : Nat := d.entries.length

/-- Whether there are no entries. -/
def isEmpty (d : Dictionary α) : Bool := d.entries.isEmpty

/-- Two dictionaries are compared entry by entry, with the values' own comparison. -/
instance [BEq α] : BEq (Dictionary α) := ⟨fun a b => a.entries == b.entries⟩

instance [DecidableEq α] : DecidableEq (Dictionary α) := fun a b =>
  if h : a.entries = b.entries then isTrue (by cases a; cases b; simp_all)
  else isFalse fun e => h (e ▸ rfl)

/-! ## The view -/

@[simp] theorem get?_empty (key : String) : (empty : Dictionary α).get? key = none := rfl

theorem get?_insert (d : Dictionary α) (key other : String) (value : α) :
    (d.insert key value).get? other = if key = other then some value else d.get? other :=
  lookup_put ..

@[simp] theorem get?_insert_self (d : Dictionary α) (key : String) (value : α) :
    (d.insert key value).get? key = some value := by simp [get?_insert]

/-- A key below all the keys of a list has no value in it. -/
theorem lookup_eq_none {key : String} {l : List (String × α)} (h : ∀ e ∈ l, key < e.1) :
    lookup key l = none := by
  induction l with
  | nil => rfl
  | cons hd tl ih =>
    have hne : hd.1 ≠ key := fun e =>
      String.lt_irrefl key (e ▸ h hd (List.mem_cons_self ..))
    simp [lookup, hne, ih fun e he => h e (List.mem_cons_of_mem _ he)]

theorem entries_eq_of_lookup {l₁ l₂ : List (String × α)} (h₁ : l₁.Pairwise (·.1 < ·.1))
    (h₂ : l₂.Pairwise (·.1 < ·.1)) (h : ∀ key, lookup key l₁ = lookup key l₂) : l₁ = l₂ := by
  induction l₁ generalizing l₂ with
  | nil =>
    cases l₂ with
    | nil => rfl
    | cons b l₂ => simpa [lookup] using h b.1
  | cons a l₁ ih =>
    cases l₂ with
    | nil => simpa [lookup] using h a.1
    | cons b l₂ =>
      obtain ⟨ha, hl₁⟩ := List.pairwise_cons.1 h₁
      obtain ⟨hb, hl₂⟩ := List.pairwise_cons.1 h₂
      have hkey : a.1 = b.1 := by
        by_cases hlt : a.1 < b.1
        · have := h a.1
          rw [@lookup_eq_none _ a.1 (b :: l₂)] at this
          · simp [lookup] at this
          · intro e he
            rcases List.mem_cons.1 he with rfl | he
            · exact hlt
            · exact String.lt_trans hlt (hb e he)
        · by_cases hgt : b.1 < a.1
          · have := h b.1
            rw [@lookup_eq_none _ b.1 (a :: l₁)] at this
            · simp [lookup] at this
            · intro e he
              rcases List.mem_cons.1 he with rfl | he
              · exact hgt
              · exact String.lt_trans hgt (ha e he)
          · exact String.le_antisymm hgt hlt
      have hval : a.2 = b.2 := by
        have := h a.1
        simpa [lookup, hkey] using this
      have htail : l₁ = l₂ := by
        refine ih hl₁ hl₂ fun key => ?_
        by_cases hk : a.1 = key
        · subst hk
          rw [lookup_eq_none ha, lookup_eq_none (fun e he => hkey ▸ hb e he)]
        · have := h key
          simpa [lookup, hk, hkey ▸ hk] using this
      rw [htail, Prod.ext hkey hval]

/-- Dictionaries with the same values at all keys are equal. -/
theorem ext_get? {d e : Dictionary α} (h : ∀ key, d.get? key = e.get? key) : d = e := by
  cases d; cases e
  simp only [mk.injEq]
  exact entries_eq_of_lookup ‹_› ‹_› h

end Dictionary

end Cutscene
