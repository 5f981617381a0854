import Cutscene.Proofs.Scene.Repertoire

set_option relaxedAutoImplicit false
set_option autoImplicit false

/-!
# Merging repertoires

A merge looks at the scenes of the other repertoire in the order of their names and moves them over
one by one. It stops at the first name that is taken, and what was moved before stays. So a merge
that succeeds joins the two repertoires, but one that fails leaves a repertoire as it was only if
the other one begins with a name that both have.

A single scene is added or refused as a whole.

## Main definitions

* `Cutscene.Repertoire.Shares`, `Cutscene.Repertoire.FirstShared` — a name that two repertoires
  have, and the least of these.
* `Cutscene.Repertoire.addAll` — adds scenes without looking whether their names are taken.
* `Cutscene.Repertoire.Moved` — what moving scenes over can come to.
* `Cutscene.Repertoire.MergesUpToClash` — what insertions and merges do to a repertoire.

## Main results

* `Cutscene.Repertoire.moved_mergeScenes` — all scenes are moved over, or those before a clash.
* `Cutscene.Repertoire.get?_addAll_iff` — scenes with new names come to those there are.
* `Cutscene.Repertoire.merges_up_to_clash` — merges join repertoires up to the first clash.
-/

namespace Cutscene

namespace Repertoire

variable {r other : Repertoire} {name : String} {s : Scene} {scenes : List Scene}

/-! ## The scenes of a repertoire -/

/-- The scenes of a repertoire are those that are found under their own names. -/
lemma mem_toList_iff : s ∈ r.toList ↔ r.get? s.name = some s := by
  refine ⟨fun h => ?_, mem_toList_of_get?⟩
  obtain ⟨entry, hentry, rfl⟩ := List.mem_map.1 h
  rw [r.named entry hentry]
  exact Dictionary.get?_of_mem hentry

/-- A scene is found under a name if it has the name and is one of the repertoire. -/
lemma get?_eq_some_iff : r.get? name = some s ↔ s ∈ r.toList ∧ s.name = name := by
  rw [mem_toList_iff]
  constructor
  · intro h
    obtain rfl := r.name_of_get? h
    exact ⟨h, rfl⟩
  · rintro ⟨h, rfl⟩
    exact h

lemma contains_iff : r.contains name = true ↔ ∃ s ∈ r.toList, s.name = name := by
  rw [contains, Dictionary.contains, Option.isSome_iff_exists]
  exact exists_congr fun s => get?_eq_some_iff

/-- The names of the scenes strictly increase. -/
lemma pairwise_toList (r : Repertoire) : r.toList.Pairwise (·.name < ·.name) := by
  refine List.pairwise_map.2 (r.scenes.sorted.imp_of_mem fun {d e} hd he hlt => ?_)
  rwa [r.named d hd, r.named e he]

/-- So no two of them share a name. -/
lemma pairwise_names (r : Repertoire) : r.toList.Pairwise (·.name ≠ ·.name) := by
  refine r.pairwise_toList.imp fun {s t} hlt he => ?_
  exact String.lt_irrefl _ (he ▸ hlt)

/-- Repertoires in which the same scenes are found are the same. -/
lemma ext_get? (h : ∀ name scene, r.get? name = some scene ↔ other.get? name = some scene) :
    r = other := by
  have hscenes : r.scenes = other.scenes :=
    Dictionary.ext_get? fun name => Option.ext fun scene => h name scene
  cases r
  cases other
  cases hscenes
  rfl

lemma get?_add (r : Repertoire) (s : Scene) (name : String) :
    (r.add s).get? name = if s.name = name then some s else r.get? name :=
  Dictionary.get?_insert ..

lemma contains_add (r : Repertoire) (s : Scene) (name : String) :
    (r.add s).contains name = true ↔ s.name = name ∨ r.contains name = true := by
  change ((r.add s).get? name).isSome = true ↔ _ ∨ (r.get? name).isSome = true
  rw [get?_add]
  split
  next h => simp [h]
  next h => simp [h]

/-! ## Adding one scene -/

/-- A scene is refused exactly if its name is taken. -/
lemma insert_eq_error_iff {e : SceneError} :
    r.insert s = .error e ↔ r.contains s.name = true ∧ e = .duplicate s.name := by
  unfold insert
  split
  next h => simp [h, eq_comm]
  next h => simp [h]

/-- Otherwise it is found under its name, and nothing else changes. -/
lemma insert_eq_ok_iff {r' : Repertoire} :
    r.insert s = .ok r' ↔ r.contains s.name = false ∧ r' = r.add s := by
  unfold insert
  split
  next h => simp [h]
  next h => simp [h, eq_comm]

/-! ## Moving scenes over -/

/-- Adds scenes, whether or not their names are taken. -/
def addAll (r : Repertoire) (scenes : List Scene) : Repertoire := scenes.foldl add r

/-- None of the names of some scenes is taken. -/
def Free (r : Repertoire) (scenes : List Scene) : Prop := ∀ s ∈ scenes, r.contains s.name = false

/-- Names that are free stay free when a scene of another name is added. -/
lemma Free.add (hfree : r.Free (s :: scenes)) (hnames : ∀ t ∈ scenes, s.name ≠ t.name) :
    (r.add s).Free scenes := by
  intro t ht
  rw [Bool.eq_false_iff, ne_eq, contains_add, not_or, Bool.not_eq_true]
  exact ⟨hnames t ht, hfree t (List.mem_cons_of_mem s ht)⟩

/-- **Scenes with new names come to those there are**, and nothing else does. -/
lemma get?_addAll_iff (hnames : scenes.Pairwise (·.name ≠ ·.name)) (hfree : r.Free scenes) :
    (r.addAll scenes).get? name = some s ↔
      r.get? name = some s ∨ s ∈ scenes ∧ s.name = name := by
  induction scenes generalizing r with
  | nil => simp [addAll]
  | cons t scenes ih =>
    obtain ⟨ht, hnames⟩ := List.pairwise_cons.1 hnames
    have hnew : r.get? t.name = none := contains_eq_false_iff.1 (hfree t List.mem_cons_self)
    refine (ih hnames (hfree.add ht)).trans ?_
    rw [get?_add, List.mem_cons]
    by_cases hname : t.name = name
    · subst hname
      rw [if_pos rfl, hnew]
      grind
    · rw [if_neg hname]
      grind

lemma mergeScenes_of_taken (h : r.contains s.name = true) :
    r.mergeScenes (s :: scenes) = (r, .error (.duplicate s.name)) := by
  rw [mergeScenes, insert_eq_error_iff.2 ⟨h, rfl⟩]

lemma mergeScenes_of_free (h : r.contains s.name = false) :
    r.mergeScenes (s :: scenes) = (r.add s).mergeScenes scenes := by
  rw [mergeScenes, insert_eq_ok_iff.2 ⟨h, rfl⟩]

/-- What moving scenes over can come to. -/
inductive Moved (r : Repertoire) : List Scene → Repertoire × Except SceneError Unit → Prop
  /-- All are moved. -/
  | all {scenes : List Scene} (hfree : r.Free scenes) : Moved r scenes (r.addAll scenes, .ok ())
  /-- The name of one is taken, and those before it are moved. -/
  | upTo (before : List Scene) (clash : Scene) {after : List Scene} (hfree : r.Free before)
    (htaken : r.contains clash.name = true) :
    Moved r (before ++ clash :: after) (r.addAll before, .error (.duplicate clash.name))

/-- **All scenes are moved over, or those before a clash**, if no two of them share a name.

**Proof sketch.** Induction on the scenes. After the first the names of the others are taken exactly
if they were before, since they differ from its own. -/
lemma moved_mergeScenes (hnames : scenes.Pairwise (·.name ≠ ·.name)) (r : Repertoire) :
    r.Moved scenes (r.mergeScenes scenes) := by
  induction scenes generalizing r with
  | nil => exact Moved.all nofun
  | cons s scenes ih =>
    obtain ⟨hs, hnames⟩ := List.pairwise_cons.1 hnames
    cases hcontains : r.contains s.name with
    | true =>
      rw [mergeScenes_of_taken hcontains]
      exact Moved.upTo [] s nofun hcontains
    | false =>
      rw [mergeScenes_of_free hcontains]
      -- what is free after the first scene was free before it
      have hfree : ∀ before, (r.add s).Free before → r.Free (s :: before) := by
        intro before h
        refine List.forall_mem_cons.2 ⟨hcontains, fun t ht => ?_⟩
        have hadd := h t ht
        rw [Bool.eq_false_iff, ne_eq, contains_add, not_or] at hadd
        exact Bool.eq_false_iff.2 hadd.2
      have hmoved := ih hnames (r.add s)
      generalize (r.add s).mergeScenes scenes = result at hmoved ⊢
      cases hmoved with
      | all h => exact Moved.all (hfree _ h)
      | upTo before clash h htaken =>
        have hne : s.name ≠ clash.name := hs clash (by simp)
        have htaken := ((contains_add r s clash.name).1 htaken).resolve_left hne
        exact Moved.upTo (s :: before) clash (hfree before h) htaken

/-! ## Merges -/

/-- Both repertoires have a scene of a name. -/
def Shares (r other : Repertoire) (name : String) : Prop :=
  r.contains name = true ∧ other.contains name = true

/-- The least name that both repertoires have. -/
structure FirstShared (r other : Repertoire) (name : String) : Prop where
  /-- Both have it. -/
  shares : r.Shares other name
  /-- It is not above any other such name. -/
  least : ∀ n, r.Shares other n → name ≤ n

/-- What insertions and merges do to a repertoire. -/
structure MergesUpToClash (r other : Repertoire) : Prop where
  /-- A merge fails exactly if some name is in both. -/
  fails_iff : (∃ e, (r.merge other).2 = .error e) ↔ ∃ name, r.Shares other name
  /-- One that does not fail holds the scenes of both, and no others. -/
  joined : (r.merge other).2 = .ok () → ∀ name scene, (r.merge other).1.get? name = some scene ↔
    r.get? name = some scene ∨ other.get? name = some scene
  /-- One that fails reports the least name that is in both. It has kept all that was there, and has
  moved over the scenes that come before that name. -/
  clashed : ∀ e, (r.merge other).2 = .error e → ∃ name, r.FirstShared other name ∧
    e = .duplicate name ∧ ∀ n scene, (r.merge other).1.get? n = some scene ↔
      r.get? n = some scene ∨ n < name ∧ other.get? n = some scene
  /-- So it leaves all as it was exactly if no scene comes before that name. -/
  unchanged_iff : ∀ name, r.FirstShared other name →
    ((r.merge other).1 = r ↔ ∀ n, other.contains n = true → name ≤ n)
  /-- A scene is refused exactly if its name is taken, and then nothing changes. -/
  refused : ∀ s, ((∃ e, r.insert s = .error e) ↔ r.contains s.name = true) ∧
    (r.contains s.name = true → r.mergeScenes [s] = (r, .error (.duplicate s.name)))
  /-- Otherwise it is found under its name, and nothing else changes. -/
  inserted : ∀ s r', r.insert s = .ok r' →
    ∀ name, r'.get? name = if s.name = name then some s else r.get? name

section Clash

variable {before after : List Scene} {clash : Scene}

/-- The scenes in front of one are those with lesser names. -/
lemma mem_before_iff (h : other.toList = before ++ clash :: after) :
    s ∈ before ∧ s.name = name ↔ name < clash.name ∧ other.get? name = some s := by
  have hsorted := other.pairwise_toList
  rw [h, List.pairwise_append, List.pairwise_cons] at hsorted
  obtain ⟨-, ⟨hafter, -⟩, hbefore⟩ := hsorted
  rw [get?_eq_some_iff, h, List.mem_append, List.mem_cons]
  constructor
  · rintro ⟨hs, rfl⟩
    exact ⟨hbefore s hs clash List.mem_cons_self, Or.inl hs, rfl⟩
  · rintro ⟨hlt, hs | rfl | hs, rfl⟩
    · exact ⟨hs, rfl⟩
    · exact absurd hlt (String.lt_irrefl _)
    · exact absurd (String.lt_trans hlt (hafter s hs)) (String.lt_irrefl _)

/-- Where scenes are moved over up to a clash, it is at the first name that both have. -/
lemma firstShared_of_clash (h : other.toList = before ++ clash :: after) (hfree : r.Free before)
    (htaken : r.contains clash.name = true) : r.FirstShared other clash.name := by
  have hclash : clash ∈ other.toList := by simp [h]
  refine ⟨⟨htaken, contains_iff.2 ⟨clash, hclash, rfl⟩⟩, fun n hn hlt => ?_⟩
  obtain ⟨s, hs, rfl⟩ := contains_iff.1 hn.2
  have hbefore : s ∈ before := ((mem_before_iff h).2 ⟨hlt, mem_toList_iff.1 hs⟩).1
  exact Bool.eq_false_iff.1 (hfree s hbefore) hn.1

/-- Where scenes are moved over up to a clash, those below it come to those there are. -/
lemma get?_addAll_before_iff (h : other.toList = before ++ clash :: after)
    (hfree : r.Free before) : (r.addAll before).get? name = some s ↔
      r.get? name = some s ∨ name < clash.name ∧ other.get? name = some s := by
  have hnames := (List.pairwise_append.1 (h ▸ other.pairwise_names)).1
  rw [get?_addAll_iff hnames hfree, mem_before_iff h]

/-- This leaves all as it was exactly if there are none below the clash. -/
lemma addAll_before_eq_iff (h : other.toList = before ++ clash :: after) (hfree : r.Free before)
    (htaken : r.contains clash.name = true) :
    r.addAll before = r ↔ ∀ n, other.contains n = true → clash.name ≤ n := by
  constructor
  · intro hsame n hn hlt
    obtain ⟨s, hs⟩ := Option.isSome_iff_exists.1 hn
    have hmine := (get?_addAll_before_iff h hfree).2 (Or.inr ⟨hlt, hs⟩)
    rw [hsame] at hmine
    have hshares : r.Shares other n := ⟨Option.isSome_iff_exists.2 ⟨s, hmine⟩, hn⟩
    exact (firstShared_of_clash h hfree htaken).least n hshares hlt
  · intro hleast
    refine ext_get? fun n scene => ?_
    rw [get?_addAll_before_iff h hfree]
    exact or_iff_left fun hbelow =>
      hleast n (Option.isSome_iff_exists.2 ⟨scene, hbelow.2⟩) hbelow.1

lemma FirstShared.unique {n : String} (h : r.FirstShared other name) (h' : r.FirstShared other n) :
    name = n :=
  String.le_antisymm (h.least n h'.shares) (h'.least name h.shares)

end Clash

/-- **Merges join repertoires up to the first clash.**

**Proof sketch.** The scenes of the other repertoire have different names, so either none is taken
and all are moved, or those before the first that is (`moved_mergeScenes`). They are in the order of
their names, so those are the ones below that name. -/
theorem merges_up_to_clash (r other : Repertoire) : r.MergesUpToClash other := by
  have hrefused : ∀ s, ((∃ e, r.insert s = .error e) ↔ r.contains s.name = true) ∧
      (r.contains s.name = true → r.mergeScenes [s] = (r, .error (.duplicate s.name))) :=
    fun s => ⟨by simp [insert_eq_error_iff], mergeScenes_of_taken⟩
  have hinserted : ∀ s r', r.insert s = .ok r' →
      ∀ name, r'.get? name = if s.name = name then some s else r.get? name := by
    intro s r' h name
    obtain ⟨-, rfl⟩ := insert_eq_ok_iff.1 h
    exact get?_add r s name
  have hmoved : r.Moved other.toList (r.merge other) := moved_mergeScenes other.pairwise_names r
  generalize hlist : other.toList = scenes at hmoved
  generalize hmerge : r.merge other = result at hmoved
  cases hmoved with
  | all hfree =>
    subst hlist
    have hapart : ∀ name, ¬r.Shares other name := by
      rintro name ⟨hname, hother⟩
      obtain ⟨s, hs, rfl⟩ := contains_iff.1 hother
      exact Bool.eq_false_iff.1 (hfree s hs) hname
    refine ⟨?_, fun _ name scene => ?_, ?_, fun name h => absurd h.shares (hapart name), hrefused,
      hinserted⟩
    · simp [hmerge, hapart]
    · rw [hmerge, get?_addAll_iff other.pairwise_names hfree, get?_eq_some_iff (r := other)]
    · simp [hmerge]
  | upTo before clash hfree htaken =>
    have hfirst := firstShared_of_clash hlist hfree htaken
    refine ⟨?_, ?_, ?_, fun name hname => ?_, hrefused, hinserted⟩
    · simp only [hmerge, Except.error.injEq, exists_eq', true_iff]
      exact ⟨clash.name, hfirst.shares⟩
    · simp [hmerge]
    · intro e he
      rw [hmerge] at he ⊢
      cases he
      exact ⟨clash.name, hfirst, rfl, fun n scene => get?_addAll_before_iff hlist hfree⟩
    · obtain rfl := hname.unique hfirst
      rw [hmerge]
      exact addAll_before_eq_iff hlist hfree htaken

/-- The first of two scenes is moved over although the name of the second is taken. -/
example : (do
    let a ← Scene.build "a" [⟨.complete, false, false⟩]
    let b ← Scene.build "b" [⟨.complete, false, false⟩]
    let merged := (← ofScenes [b]).merge (← ofScenes [a, b])
    return (merged.1.names, merged.2)) = .ok (["a", "b"], .error (.duplicate "b")) := rfl

end Repertoire

end Cutscene
