import Cutscene.Proofs.Json.Reading

set_option relaxedAutoImplicit false
set_option autoImplicit false

/-!
# Fields by name

A type with named fields is read in one pass over the members of a record, one member after the
other, into what has been gathered so far. What comes out can be said without the pass: each field
holds what its reader makes of the one value under its name, or nothing if there is none, and what
stands under other names does not matter. The order of the members is no part of this.

## Main definitions

* `Cutscene.Json.valuesOf` — the values under a name.
* `Cutscene.Json.Filled` — what a place holds after values of its name have been read, each of which
  may come once.
* `Cutscene.Json.Slot` — fields that read what stands under a name into one place.
* `Cutscene.Json.Legible` — members whose names can be read, and with them the values that are
  skipped.

## Main results

* `Cutscene.Json.Slot.filled` — after the members of a record a place holds what is read of the
  values under its name.
* `Cutscene.Json.exists_readFields` — legible members are read if every field can be filled.
-/

namespace Cutscene.Json

/-! ## The values of a name -/

section Values

variable {name key : String} {o : Outline} {members : List Member}

/-- The values under a name, in order. -/
def valuesOf (name : String) (members : List Member) : List Outline :=
  members.filterMap fun m => if m.1.toOption = some name then some m.2 else none

@[simp] lemma valuesOf_nil : valuesOf name [] = [] := rfl

@[simp] lemma valuesOf_cons_self :
    valuesOf name ((.ok name, o) :: members) = o :: valuesOf name members := by
  simp [valuesOf, Except.toOption]

lemma valuesOf_cons_of_ne (h : key ≠ name) :
    valuesOf name ((.ok key, o) :: members) = valuesOf name members := by
  simp [valuesOf, Except.toOption, h]

lemma mem_valuesOf_iff : o ∈ valuesOf name members ↔ (.ok name, o) ∈ members := by
  have hname : ∀ n : Except Fault String, n.toOption = some name ↔ n = .ok name := by
    intro n
    cases n <;> simp [Except.toOption]
  simp only [valuesOf, List.mem_filterMap, Option.ite_none_right_eq_some, hname]
  constructor
  · rintro ⟨⟨n, v⟩, hm, rfl, hv⟩
    rwa [← Option.some.inj hv]
  · exact fun h => ⟨_, h, rfl, rfl⟩

end Values

/-! ## Filling a place -/

section Filling

variable {α β : Type} {r : β → Except Problem α} {x y z : Option α} {o : β} {os : List β} {a : α}

/-- What a place that holds `x` holds after the values `os` have been read into it. A place that
holds something takes nothing more. -/
inductive Filled (r : β → Except Problem α) : Option α → List β → Option α → Prop where
  /-- There is no value. -/
  | kept (x : Option α) : Filled r x [] x
  /-- There is one value, and nothing was there before. -/
  | read {o : β} {a : α} (h : r o = .ok a) : Filled r none [o] (some a)

/-- What a place holds in the end is determined by the values. -/
lemma Filled.unique (hy : Filled r x os y) (hz : Filled r x os z) : y = z := by
  cases hy with
  | kept => cases hz; rfl
  | read ha =>
    cases hz with
    | read hb => rw [Except.ok.inj (ha.symm.trans hb)]

lemma filled_nil_iff : Filled r x [] y ↔ y = x := by
  constructor
  · intro h
    cases h
    rfl
  · rintro rfl
    exact .kept _

/-- The first value goes into a place that was empty, and the others after it. -/
lemma filled_cons_iff :
    Filled r x (o :: os) y ↔ x = none ∧ ∃ a, r o = .ok a ∧ Filled r (some a) os y := by
  constructor
  · intro h
    cases h with
    | read ha => exact ⟨rfl, _, ha, .kept _⟩
  · rintro ⟨rfl, a, ha, h⟩
    cases h with
    | kept => exact .read ha

/-- After the first value there is no other. -/
lemma Filled.eq_nil (h : Filled r (some a) os y) : os = [] := by
  cases h
  rfl

/-- Something is in an empty place in the end iff it is read of the one value there is. -/
lemma filled_some_iff : Filled r none os (some a) ↔ ∃ o, os = [o] ∧ r o = .ok a := by
  constructor
  · intro h
    cases h with
    | read ha => exact ⟨_, rfl, ha⟩
  · rintro ⟨o, rfl, ha⟩
    exact .read ha

end Filling

/-! ## Fields -/

section Fields

variable {σ α : Type} {fields : List (Field σ)} {name : String} {get : σ → Option α}
  {r : Reader α} {o : Outline} {members : List Member} {s s' : σ}

/-- Fields that read what stands under a name with a reader into one place, and touch this place in
no other way. -/
structure Slot (fields : List (Field σ)) (name : String) (get : σ → Option α) (r : Reader α) :
    Prop where
  /-- The field of the name is set when the place holds something, and reads into the place. -/
  found : ∃ field, fields.find? (·.name == name) = some field ∧
    (∀ s, field.isSet s = (get s).isSome) ∧ ∀ o s, (field.read o s).map get = (r o).map some
  /-- The fields of other names leave the place alone. -/
  alone : ∀ field ∈ fields, field.name ≠ name → ∀ o s s', field.read o s = .ok s' → get s' = get s

/-- A field that puts what is read into a place reads into that place. -/
lemma Slot.of_put {field : Field σ} (put : α → σ → σ)
    (hfind : fields.find? (·.name == name) = some field)
    (hset : ∀ s, field.isSet s = (get s).isSome)
    (hread : ∀ o s, field.read o s = r o >>= fun a => .ok (put a s))
    (hget : ∀ a s, get (put a s) = some a)
    (halone : ∀ field ∈ fields, field.name ≠ name →
      ∀ o s s', field.read o s = .ok s' → get s' = get s) : Slot fields name get r where
  found := by
    refine ⟨field, hfind, hset, fun o s => ?_⟩
    rw [hread]
    cases r o with
    | error e => rfl
    | ok a => exact congrArg Except.ok (hget a s)
  alone := halone

/-- A member is read by the field of its name, if that has not been read before, or skipped. -/
lemma readFields_cons_eq_ok_iff {n : Except Fault String} :
    readFields fields ((n, o) :: members) s = .ok s' ↔ ∃ key, n = .ok key ∧
      ((∃ field s₁, fields.find? (·.name == key) = some field ∧ field.isSet s = false ∧
          field.read o s = .ok s₁ ∧ readFields fields members s₁ = .ok s') ∨
        (fields.find? (·.name == key) = none ∧ o.skip = .ok () ∧
          readFields fields members s = .ok s')) := by
  constructor
  · intro h
    obtain ⟨key, hkey, h⟩ := exists_of_bind_eq_ok h
    refine ⟨key, eq_ok_of_orFault hkey, ?_⟩
    cases hfind : fields.find? (·.name == key) with
    | some field =>
      simp only [hfind] at h
      split at h
      · cases h
      next hset =>
        obtain ⟨s₁, hread, h⟩ := exists_of_bind_eq_ok h
        exact Or.inl ⟨field, s₁, rfl, Bool.eq_false_iff.2 hset, hread, h⟩
    | none =>
      simp only [hfind] at h
      obtain ⟨_, hskip, h⟩ := exists_of_bind_eq_ok h
      exact Or.inr ⟨rfl, eq_ok_of_orFault hskip, h⟩
  · rintro ⟨key, rfl, ⟨field, s₁, hfind, hset, hread, h⟩ | ⟨hfind, hskip, h⟩⟩
    · rwa [readFields_of_find hfind hset hread]
    · simpa only [readFields, orFault, Except.mapError, bind, Except.bind, hfind, hskip] using h

/-- The name of a field that is found is the name that was looked for. -/
lemma name_of_find? {field : Field σ} (h : fields.find? (·.name == name) = some field) :
    field.name = name := by
  simpa using List.find?_some h

namespace Slot

/-- The field of the name fills its place where the reader reads its value. -/
lemma read_eq_ok {field : Field σ} (hslot : Slot fields name get r)
    (hfind : fields.find? (·.name == name) = some field) (h : field.read o s = .ok s') :
    ∃ a, r o = .ok a ∧ get s' = some a := by
  obtain ⟨field', hfind', -, hread⟩ := hslot.found
  obtain rfl : field' = field := Option.some.inj (hfind'.symm.trans hfind)
  have hmap := hread o s
  rw [h] at hmap
  cases ha : r o with
  | error e => rw [ha] at hmap; cases hmap
  | ok a =>
    rw [ha] at hmap
    exact ⟨a, rfl, Except.ok.inj hmap⟩

/-- The field of the name reads what the reader reads. -/
lemma exists_read {field : Field σ} {a : α} (hslot : Slot fields name get r)
    (hfind : fields.find? (·.name == name) = some field) (h : r o = .ok a) :
    ∃ s', field.read o s = .ok s' := by
  obtain ⟨field', hfind', -, hread⟩ := hslot.found
  obtain rfl : field' = field := Option.some.inj (hfind'.symm.trans hfind)
  have hmap := hread o s
  rw [h] at hmap
  cases hs : field'.read o s with
  | error e => rw [hs] at hmap; cases hmap
  | ok s' => exact ⟨s', rfl⟩

/-- A field that has been read holds something. -/
lemma isSet_eq {field : Field σ} (hslot : Slot fields name get r)
    (hfind : fields.find? (·.name == name) = some field) : field.isSet s = (get s).isSome := by
  obtain ⟨field', hfind', hset, -⟩ := hslot.found
  obtain rfl : field' = field := Option.some.inj (hfind'.symm.trans hfind)
  exact hset s

/-- **What a place holds after the members of a record** is what is read of the values under its
name.

**Proof sketch.** By the members. The one under the name finds the place empty, and fills it; one
under another name leaves it alone, be it read or skipped. -/
theorem filled (hslot : Slot fields name get r) (h : readFields fields members s = .ok s') :
    Filled r (get s) (valuesOf name members) (get s') := by
  induction members generalizing s with
  | nil =>
    cases h
    exact .kept _
  | cons member members ih =>
    obtain ⟨n, o⟩ := member
    obtain ⟨key, rfl, ⟨field, s₁, hfind, hset, hread, h⟩ | ⟨hfind, -, h⟩⟩ :=
      readFields_cons_eq_ok_iff.1 h
    · by_cases hkey : key = name
      · subst hkey
        obtain ⟨a, ha, hget⟩ := hslot.read_eq_ok hfind hread
        rw [hslot.isSet_eq hfind, Option.isSome_eq_false_iff, Option.isNone_iff_eq_none] at hset
        rw [valuesOf_cons_self, hset]
        exact filled_cons_iff.2 ⟨rfl, a, ha, hget ▸ ih h⟩
      · have hname : field.name ≠ name := (name_of_find? hfind).trans_ne hkey
        rw [valuesOf_cons_of_ne hkey,
          ← hslot.alone field (List.mem_of_find?_eq_some hfind) hname o s s₁ hread]
        exact ih h
    · have hkey : key ≠ name := by
        rintro rfl
        obtain ⟨field, hfound, -⟩ := hslot.found
        cases hfind.symm.trans hfound
      rw [valuesOf_cons_of_ne hkey]
      exact ih h

end Slot

/-- A place of a name that the values under the name fit into. -/
def Fits (fields : List (Field σ)) (members : List Member) (s : σ) (name : String) : Prop :=
  ∃ (α : Type) (get : σ → Option α) (r : Reader α) (y : Option α),
    Slot fields name get r ∧ Filled r (get s) (valuesOf name members) y

lemma Slot.fits {y : Option α} (hslot : Slot fields name get r)
    (h : Filled r (get s) (valuesOf name members) y) : Fits fields members s name :=
  ⟨α, get, r, y, hslot, h⟩

/-- Members whose names can be read; what no field reads can be skipped. -/
def Legible (fields : List (Field σ)) (members : List Member) : Prop :=
  ∀ m ∈ members, ∃ key, m.1 = .ok key ∧ (fields.find? (·.name == key) = none → m.2.skip = .ok ())

/-- What has been read was legible. -/
lemma legible_of_readFields (h : readFields fields members s = .ok s') :
    Legible fields members := by
  induction members generalizing s with
  | nil => exact fun m hm => absurd hm List.not_mem_nil
  | cons member members ih =>
    obtain ⟨n, o⟩ := member
    obtain ⟨key, rfl, ⟨field, s₁, hfind, -, -, h⟩ | ⟨-, hskip, h⟩⟩ := readFields_cons_eq_ok_iff.1 h
    · exact List.forall_mem_cons.2 ⟨⟨key, rfl, fun hnone => nomatch hfind.symm.trans hnone⟩, ih h⟩
    · exact List.forall_mem_cons.2 ⟨⟨key, rfl, fun _ => hskip⟩, ih h⟩

/-- **Legible members are read** if the values under the name of each field fit into its place.

**Proof sketch.** By the members. The first one fits, so it is the only one of its name; the places
of all other names are as before. -/
theorem exists_readFields (hlegible : Legible fields members)
    (hfits : ∀ field ∈ fields, Fits fields members s field.name) :
    ∃ s', readFields fields members s = .ok s' := by
  induction members generalizing s with
  | nil => exact ⟨s, rfl⟩
  | cons member members ih =>
    obtain ⟨⟨key, hname, hskip⟩, htail⟩ := List.forall_mem_cons.1 hlegible
    obtain ⟨n, o⟩ := member
    obtain rfl : n = .ok key := hname
    cases hfind : fields.find? (·.name == key) with
    | none =>
      -- No field has the name, so every place is as it was.
      have hrest : ∀ field ∈ fields, Fits fields members s field.name := by
        intro field hfield
        have hkey : key ≠ field.name := fun hkey =>
          List.find?_eq_none.1 hfind field hfield (beq_iff_eq.2 hkey.symm)
        obtain ⟨α, get, r, y, hslot, hfilled⟩ := hfits field hfield
        rw [valuesOf_cons_of_ne hkey] at hfilled
        exact hslot.fits hfilled
      obtain ⟨s', h⟩ := ih htail hrest
      exact ⟨s', readFields_cons_eq_ok_iff.2 ⟨key, rfl, Or.inr ⟨hfind, hskip hfind, h⟩⟩⟩
    | some field =>
      obtain rfl := name_of_find? hfind
      have hfield := List.mem_of_find?_eq_some hfind
      obtain ⟨α, get, r, y, hslot, hfilled⟩ := hfits field hfield
      rw [valuesOf_cons_self] at hfilled
      obtain ⟨hempty, a, ha, hlast⟩ := filled_cons_iff.1 hfilled
      obtain ⟨s₁, hread⟩ := hslot.exists_read (s := s) hfind ha
      have hrest : ∀ other ∈ fields, Fits fields members s₁ other.name := by
        intro other hother
        obtain ⟨β, get', r', y', hslot', hfilled'⟩ := hfits other hother
        by_cases hkey : field.name = other.name
        · rw [← hkey] at hslot' ⊢
          refine hslot'.fits (y := get' s₁) ?_
          rw [hlast.eq_nil]
          exact .kept _
        · rw [valuesOf_cons_of_ne hkey, ← hslot'.alone field hfield hkey o s s₁ hread] at hfilled'
          exact hslot'.fits hfilled'
      obtain ⟨s', h⟩ := ih htail hrest
      have hset : field.isSet s = false := by rw [hslot.isSet_eq hfind, hempty]; rfl
      exact ⟨s', readFields_cons_eq_ok_iff.2
        ⟨field.name, rfl, Or.inl ⟨field, s₁, hfind, hset, hread, h⟩⟩⟩

/-- A type is read from a record that is closed, by the fields and then as a whole. -/
lemma Schema.read_record_eq_ok_iff {schema : Schema σ α} {fault : Option Fault} {a : α} :
    schema.read (.record members fault) = .ok a ↔ fault = none ∧
      ∃ s, readFields schema.fields members schema.start = .ok s ∧
        schema.finish (fun _ name => .mismatch (.missingField name)) s = .ok a := by
  constructor
  · intro h
    obtain ⟨s, hs, h⟩ := exists_of_bind_eq_ok h
    obtain ⟨_, hfault, h⟩ := exists_of_bind_eq_ok h
    cases fault with
    | none => exact ⟨rfl, s, hs, h⟩
    | some f => cases hfault
  · rintro ⟨rfl, s, hs, h⟩
    rw [Schema.read, hs]
    exact h

end Fields

/-! ## Values that have been read -/

/-- Members that have been read are legible to any fields. -/
lemma legible_ofMembers {σ : Type} (fields : List (Field σ)) (members : List (String × Json)) :
    Legible fields (ofMembers members) := by
  intro m hm
  rw [ofMembers_eq_map] at hm
  obtain ⟨⟨name, v⟩, -, rfl⟩ := List.mem_map.1 hm
  exact ⟨name, rfl, fun _ => skip_ofValue v⟩

/-! ## Whole texts -/

/-- A text is read by its outline, with nothing behind it. -/
lemma readText_eq_ok_iff {α : Type} {r : Reader α} {text : String} {a : α} :
    readText r text = .ok a ↔
      r (Document.ofText text).root = .ok a ∧ (Document.ofText text).trailing = false := by
  constructor
  · intro h
    obtain ⟨b, hb, h⟩ := exists_of_bind_eq_ok h
    split at h
    · cases h
    next htrailing =>
      cases h
      exact ⟨hb, Bool.eq_false_iff.2 htrailing⟩
  · rintro ⟨ha, htrailing⟩
    rw [readText, ha]
    exact if_neg (by simp [htrailing])

end Cutscene.Json
