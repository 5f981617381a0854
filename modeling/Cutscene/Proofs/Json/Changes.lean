import Mathlib.Data.List.Perm.Basic
import Cutscene.Proofs.Json.Fields
import Cutscene.Proofs.Json.Spellings

set_option relaxedAutoImplicit false
set_option autoImplicit false

/-!
# Changes that readers ignore

Some changes to the outline of a text make no difference to a reader: the members of a record may
be put in another order, members that no field reads may come and go, and a field that is left out
may be written with the value that stands for nothing. A reader that ignores a change ignores it
also in an item of a list and in the value of a name. None of this holds where the text breaks off,
but a text that is read as a whole does not.

## Main definitions

* `Cutscene.Json.Reader.Thorough` — a reader that takes only what does not break off.
* `Cutscene.Json.Reader.Ignores` — a reader that makes the same of outlines that are related.
* `Cutscene.Json.Edit` — a change to the members of a record.
* `Cutscene.Json.InRecord`, `Cutscene.Json.InValue`, `Cutscene.Json.InItem` — a change to a record,
  to the value of one member and to one item of a list.

## Main results

* `Cutscene.Json.thorough_schema` — a type with named fields is read of what does not break off.
* `Cutscene.Json.Edit.values` — what a change does to the values under a name.
* `Cutscene.Json.ignores_readList`, `Cutscene.Json.ignores_readDictionary` — what is ignored in an
  item or a value is ignored in the list or the dictionary.
-/

namespace Cutscene.Json

/-! ## Readers that take only what does not break off -/

/-- A reader that takes only what does not break off. -/
def Reader.Thorough {α : Type} (r : Reader α) : Prop := ∀ o a, r o = .ok a → o.skip = .ok ()

section Thorough

variable {α σ : Type} {r : Reader α} {o : Outline} {a : α}

lemma thorough_readString : Reader.Thorough readString := by
  intro o s h
  unfold readString at h
  split at h
  · rfl
  · cases h

lemma thorough_readFlag : Reader.Thorough readFlag := by
  intro o b h
  unfold readFlag at h
  split at h
  · rfl
  · cases h

lemma thorough_readCount (wanted : String) : (readCount wanted).Thorough := by
  intro o n h
  unfold readCount at h
  split at h
  · rfl
  · cases h

lemma thorough_readNothing : Reader.Thorough readNothing := by
  intro o u h
  unfold readNothing at h
  split at h
  · rfl
  · cases h

lemma thorough_readOptional (hr : r.Thorough) : Reader.Thorough (readOptional r) := by
  intro o a h
  unfold readOptional at h
  split at h
  · rfl
  · cases h
  · cases ho : r o with
    | error problem => rw [ho] at h; cases h
    | ok b => exact hr o b ho

lemma thorough_readList (hr : r.Thorough) : Reader.Thorough (readList r) := by
  intro o as h
  obtain ⟨items, rfl, heach⟩ := exists_of_readList h
  exact Outline.skip_list_iff.2 ⟨forall_of_forall₂ (readEach_eq_ok_iff.1 heach) hr, rfl⟩

lemma thorough_readDictionary (hr : r.Thorough) : Reader.Thorough (readDictionary r) := by
  intro o d h
  obtain ⟨members, as, rfl, hnamed, -⟩ := exists_of_readDictionary h
  refine Outline.skip_record_iff.2 ⟨?_, rfl⟩
  exact forall_of_forall₂ (readNamed_eq_ok_iff.1 hnamed) fun m e hm => hr m.2 e.2 hm.2

/-- A choice is a text, or a record of one name and `null`. -/
lemma thorough_readChoice (choices : List (String × α)) : (readChoice choices).Thorough := by
  intro o a h
  unfold readChoice at h
  split at h
  · rfl
  · cases h
  · cases h
  next name value members fault =>
    obtain ⟨choice, -, h⟩ := exists_of_bind_eq_ok h
    obtain ⟨u, hvalue, h⟩ := exists_of_bind_eq_ok h
    split at h
    next hempty =>
      obtain ⟨u', hend, -⟩ := exists_of_bind_eq_ok h
      obtain rfl : members = [] := List.isEmpty_iff.1 hempty
      refine Outline.skip_record_iff.2 ⟨?_, ?_⟩
      · exact List.forall_mem_cons.2 ⟨thorough_readNothing value u hvalue, nofun⟩
      · cases fault with
        | none => rfl
        | some f => cases hend
    · cases h
  · cases h
  · cases h
  · cases h

section Schemas

variable {fields : List (Field σ)} {s s' : σ}

/-- A type with named fields is read only of what does not break off, if its fields are. -/
theorem thorough_schema {schema : Schema σ α}
    (hfields : ∀ field ∈ schema.fields, ∀ o s s', field.read o s = .ok s' → o.skip = .ok ()) :
    schema.read.Thorough := by
  have hmembers : ∀ {members : List Member} {s s' : σ},
      readFields schema.fields members s = .ok s' → ∀ m ∈ members, m.2.skip = .ok () := by
    intro members
    induction members with
    | nil => exact fun _ => nofun
    | cons member members ih =>
      intro s s' h
      obtain ⟨n, o⟩ := member
      obtain ⟨key, rfl, ⟨field, s₁, hfind, -, hread, h⟩ | ⟨-, hskip, h⟩⟩ :=
        readFields_cons_eq_ok_iff.1 h
      · have hfield := List.mem_of_find?_eq_some hfind
        exact List.forall_mem_cons.2 ⟨hfields field hfield o s s₁ hread, ih h⟩
      · exact List.forall_mem_cons.2 ⟨hskip, ih h⟩
  have hitems : ∀ {fields : List (Field σ)} {items : List Outline} {s s' : σ},
      (∀ field ∈ fields, ∀ o s s', field.read o s = .ok s' → o.skip = .ok ()) →
      readPositions fields items s = .ok s' → ∀ item ∈ items, item.skip = .ok () := by
    intro fields items
    induction items generalizing fields with
    | nil => exact fun _ _ => nofun
    | cons item items ih =>
      intro s s' hfields h
      cases fields with
      | nil => cases h
      | cons field fields =>
        obtain ⟨hfield, hmore⟩ := List.forall_mem_cons.1 hfields
        obtain ⟨s₁, hread, h⟩ := exists_of_bind_eq_ok h
        exact List.forall_mem_cons.2 ⟨hfield item s s₁ hread, ih hmore h⟩
  intro o a h
  cases o with
  | record members fault =>
    obtain ⟨rfl, s, hs, -⟩ := Schema.read_record_eq_ok_iff.1 h
    exact Outline.skip_record_iff.2 ⟨hmembers hs, rfl⟩
  | list items fault =>
    obtain ⟨s, hs, h⟩ := exists_of_bind_eq_ok h
    obtain ⟨_, hend, -⟩ := exists_of_bind_eq_ok h
    refine Outline.skip_list_iff.2 ⟨hitems hfields hs, ?_⟩
    cases fault with
    | none => rfl
    | some f => cases hend
  | null | flag | number | text | broken => cases h

end Schemas

end Thorough

/-! ## The values under a name -/

section Values

variable {α : Type} {r : Reader α} {os os' : List Outline} {x y : Option α}

lemma valuesOf_append (name : String) (members more : List Member) :
    valuesOf name (members ++ more) = valuesOf name members ++ valuesOf name more :=
  List.filterMap_append

/-- What a place holds does not depend on the order of the values: there is one at most. -/
lemma Filled.perm (h : Filled r x os y) (hperm : os.Perm os') : Filled r x os' y := by
  cases h with
  | kept =>
    rw [List.nil_perm.1 hperm]
    exact .kept _
  | read h =>
    obtain rfl := List.singleton_perm.1 hperm
    exact .read h

lemma filled_iff_of_perm (hperm : os.Perm os') : Filled r x os y ↔ Filled r x os' y :=
  ⟨fun h => h.perm hperm, fun h => h.perm hperm.symm⟩

/-- A place that is empty takes one value, and no other before or behind it. -/
lemma filled_middle_iff {before after : List Outline} {o : Outline} {a : α} :
    Filled r none (before ++ o :: after) (some a) ↔ (before = [] ∧ after = []) ∧ r o = .ok a := by
  rw [filled_some_iff]
  constructor
  · rintro ⟨v, hv, ha⟩
    obtain ⟨rfl, rfl, rfl⟩ : before = [] ∧ o = v ∧ after = [] := by
      cases before <;> simp_all
    exact ⟨⟨rfl, rfl⟩, ha⟩
  · rintro ⟨⟨rfl, rfl⟩, ha⟩
    exact ⟨o, rfl, ha⟩

end Values

/-! ## Changes to members -/

/-- A change to the members of a record in which fields of some names are read, and where some
values stand for nothing. -/
inductive Edit (names : List String) (idle : List (String × Outline)) :
    List Member → List Member → Prop where
  /-- The members are put in another order. -/
  | reorder {members members' : List Member} (h : members.Perm members') :
      Edit names idle members members'
  /-- A member is put in that no field reads. -/
  | unread {members : List Member} {name : String} {value : Outline} (hname : name ∉ names)
      (hvalue : value.WellFormed) : Edit names idle members ((.ok name, value) :: members)
  /-- A field that is left out is put in, with the value that stands for nothing. -/
  | idle {members : List Member} {name : String} {value : Outline} (hidle : (name, value) ∈ idle)
      (habsent : ∀ m ∈ members, m.1 ≠ .ok name) :
      Edit names idle members ((.ok name, value) :: members)

section Edits

variable {σ : Type} {names : List String} {idle : List (String × Outline)}
  {members members' : List Member} {name : String} {fields : List (Field σ)}

/-- **What a change does to the values under a name that is read**: nothing, or there is one that
stands for nothing where there was none. -/
theorem Edit.values (h : Edit names idle members members') (hname : name ∈ names) :
    (valuesOf name members).Perm (valuesOf name members') ∨
      ∃ value, (name, value) ∈ idle ∧ valuesOf name members = [] ∧
        valuesOf name members' = [value] := by
  cases h with
  | reorder h => exact Or.inl (h.filterMap _)
  | @unread key value hkey _ =>
    have hne : key ≠ name := fun heq => hkey (heq ▸ hname)
    rw [valuesOf_cons_of_ne hne]
    exact Or.inl (.refl _)
  | @idle key value hidle habsent =>
    by_cases hkey : key = name
    · subst hkey
      have hnone : valuesOf key members = [] :=
        List.eq_nil_iff_forall_not_mem.2 fun o ho => habsent _ (mem_valuesOf_iff.1 ho) rfl
      rw [valuesOf_cons_self, hnone]
      exact Or.inr ⟨value, hidle, rfl, rfl⟩
    · rw [valuesOf_cons_of_ne hkey]
      exact Or.inl (.refl _)

/-- The same where there is one value that stands for nothing. -/
lemma Edit.values_of_idle {value : Outline} (h : Edit names idle members members')
    (hname : name ∈ names) (hidle : ∀ o, (name, o) ∈ idle → o = value) :
    (valuesOf name members).Perm (valuesOf name members') ∨
      valuesOf name members = [] ∧ valuesOf name members' = [value] := by
  refine (h.values hname).imp_right fun ⟨o, ho, hnone, hone⟩ => ⟨hnone, ?_⟩
  rw [hone, hidle o ho]

/-- The same where no value stands for nothing. -/
lemma Edit.values_perm (h : Edit names idle members members') (hname : name ∈ names)
    (hidle : ∀ o, (name, o) ∉ idle) : (valuesOf name members).Perm (valuesOf name members') :=
  (h.values hname).resolve_right fun ⟨o, ho, _⟩ => hidle o ho

/-- A change keeps members legible. -/
lemma Edit.legible_iff (h : Edit names idle members members')
    (hnames : fields.map Field.name = names) (hidle : ∀ e ∈ idle, e.1 ∈ names) :
    Legible fields members ↔ Legible fields members' := by
  cases h with
  | reorder h => exact forall_congr' fun m => imp_congr_left h.mem_iff
  | @unread name value _ hvalue =>
    refine (List.forall_mem_cons.trans (and_iff_right ?_)).symm
    exact ⟨name, rfl, fun _ => hvalue.skip_eq⟩
  | @idle name value hmem _ =>
    refine (List.forall_mem_cons.trans (and_iff_right ⟨name, rfl, fun hnone => ?_⟩)).symm
    -- A field of the name is there.
    have hname : name ∈ fields.map Field.name := hnames ▸ hidle _ hmem
    obtain ⟨field, hfield, rfl⟩ := List.mem_map.1 hname
    exact absurd (beq_self_eq_true _) (List.find?_eq_none.1 hnone field hfield)

end Edits

/-! ## Changes inside an outline -/

/-- A change to a record. -/
inductive InRecord (R : List Member → List Member → Prop) : Outline → Outline → Prop where
  /-- The members are changed. -/
  | mk {members members' : List Member} (h : R members members') :
      InRecord R (.record members none) (.record members' none)

/-- A change to the value of one member, whose name is one of these. -/
inductive InValue (P : String → Prop) (R : Outline → Outline → Prop) :
    Outline → Outline → Prop where
  /-- The value is changed. -/
  | mk {before after : List Member} {name : String} {o o' : Outline} (hname : P name) (h : R o o') :
      InValue P R (.record (before ++ (.ok name, o) :: after) none)
        (.record (before ++ (.ok name, o') :: after) none)

/-- A change to one item of a list. -/
inductive InItem (R : Outline → Outline → Prop) : Outline → Outline → Prop where
  /-- The item is changed. -/
  | mk {before after : List Outline} {o o' : Outline} (h : R o o') :
      InItem R (.list (before ++ o :: after) none) (.list (before ++ o' :: after) none)

/-- A change keeps what is well formed, and makes nothing so. -/
def KeepsForm (R : Outline → Outline → Prop) : Prop :=
  ∀ o o', R o o' → (o.WellFormed ↔ o'.WellFormed)

/-- A reader makes the same of what is changed. -/
def Reader.Ignores {α : Type} (r : Reader α) (R : Outline → Outline → Prop) : Prop :=
  ∀ o o', R o o' → ∀ a, r o = .ok a ↔ r o' = .ok a

section Inside

variable {α : Type} {r : Reader α} {R : Outline → Outline → Prop} {P : String → Prop}

lemma keepsForm_inRecord {names : List String} {idle : List (String × Outline)}
    (hidle : ∀ e ∈ idle, e.2.WellFormed) : KeepsForm (InRecord (Edit names idle)) := by
  rintro _ _ ⟨h⟩
  rw [Outline.wellFormed_record_iff, Outline.wellFormed_record_iff]
  refine and_congr_left' ?_
  cases h with
  | reorder h => exact forall_congr' fun m => imp_congr_left h.mem_iff
  | @unread name value _ hvalue =>
    exact (List.forall_mem_cons.trans (and_iff_right ⟨writable_text name, hvalue⟩)).symm
  | @idle name value hmem _ =>
    exact (List.forall_mem_cons.trans (and_iff_right ⟨writable_text name, hidle _ hmem⟩)).symm

lemma keepsForm_inValue (h : KeepsForm R) : KeepsForm (InValue P R) := by
  rintro _ _ ⟨-, hR⟩
  simp only [Outline.wellFormed_record_iff, List.forall_mem_append, List.forall_mem_cons, h _ _ hR]

lemma keepsForm_inItem (h : KeepsForm R) : KeepsForm (InItem R) := by
  rintro _ _ ⟨hR⟩
  simp only [Outline.wellFormed_list_iff, List.forall_mem_append, List.forall_mem_cons, h _ _ hR]

/-- **What is ignored in an item is ignored in the list.** -/
theorem ignores_readList (h : r.Ignores R) : Reader.Ignores (readList r) (InItem R) := by
  rintro _ _ ⟨hR⟩ as
  rename_i before after o o'
  rw [readList_eq_ok_iff, readList_eq_ok_iff, readEach_eq_ok_iff, readEach_eq_ok_iff]
  refine and_congr_left' ?_
  induction before generalizing as with
  | nil => simp only [List.nil_append, List.forall₂_cons_left_iff, h _ _ hR]
  | cons item before ih => simp only [List.cons_append, List.forall₂_cons_left_iff, ih]

/-- **What is ignored in a value is ignored in the dictionary.** -/
theorem ignores_readDictionary (h : r.Ignores R) :
    Reader.Ignores (readDictionary r) (InValue P R) := by
  rintro _ _ ⟨-, hR⟩ d
  rename_i before after name o o'
  have hnamed : ∀ as : List (String × α), readNamed r (before ++ (.ok name, o) :: after) = .ok as ↔
      readNamed r (before ++ (.ok name, o') :: after) = .ok as := by
    intro as
    rw [readNamed_eq_ok_iff, readNamed_eq_ok_iff]
    induction before generalizing as with
    | nil => simp only [List.nil_append, List.forall₂_cons_left_iff, h _ _ hR]
    | cons member before ih => simp only [List.cons_append, List.forall₂_cons_left_iff, ih]
  simp only [readDictionary_eq_ok_iff, hnamed]

end Inside

end Cutscene.Json
