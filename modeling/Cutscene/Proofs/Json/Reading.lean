import Mathlib.Data.List.Forall2
import Cutscene.Proofs.Dictionary
import Cutscene.Proofs.Json.Outlines

set_option relaxedAutoImplicit false
set_option autoImplicit false

/-!
# Reading what has been written

A reader that undoes a way of writing something does so also where that is an item of a list, the
value of a name or the value of a field. Together with the outline of what has been written, this is
all that has to be known of a format to read it back.

## Main results

* `Cutscene.Json.readEach_eq_ok_iff`, `Cutscene.Json.readNamed_eq_ok_iff` — items and members are
  read one by one.
* `Cutscene.Json.readList_map`, `Cutscene.Json.readDictionary_map` — lists and dictionaries read
  back if what they hold does.
* `Cutscene.Json.readFields_of_find` — a field is read where it stands.
-/

namespace Cutscene

namespace Json

/-! ## Numbers in values -/

section Numbers

variable {items : List Json} {members : List (String × Json)}

/-- The numbers of a list read back if those of its items do. -/
lemma readsBack_list (h : ∀ v ∈ items, v.ReadsBack) : (list items).ReadsBack := by
  intro n hn
  rw [numbers] at hn
  induction items with
  | nil => cases hn
  | cons item items ih =>
    rcases List.mem_append.1 hn with hn | hn
    · exact h item List.mem_cons_self n hn
    · exact ih (fun v hv => h v (List.mem_cons_of_mem item hv)) hn

/-- The numbers of a record read back if those of its values do. -/
lemma readsBack_record (h : ∀ m ∈ members, m.2.ReadsBack) : (record members).ReadsBack := by
  intro n hn
  rw [numbers] at hn
  induction members with
  | nil => cases hn
  | cons member members ih =>
    rcases List.mem_append.1 hn with hn | hn
    · exact h member List.mem_cons_self n hn
    · exact ih (fun m hm => h m (List.mem_cons_of_mem member hm)) hn

lemma readsBack_flag (b : Bool) : (flag b).ReadsBack := fun _ hn => absurd hn List.not_mem_nil

lemma readsBack_text (s : String) : (text s).ReadsBack := fun _ hn => absurd hn List.not_mem_nil

lemma readsBack_number {n : Number} : (number n).ReadsBack ↔ n.ReadsBack := by
  simp [ReadsBack, numbers]

/-- Counts of 64 bits read back. -/
lemma readsBack_count (n : UInt64) : (count n.toNat).ReadsBack := by
  have hlt : n.toNat < UInt64.size := n.toNat_lt
  exact readsBack_number.2 (readsBack_whole (by omega) (by omega))

/-- The decimal of one and a half reads back. -/
lemma readsBack_half : (Number.real 1.5).ReadsBack := by
  have hchars : (Number.real 1.5).chars = ['1', '.', '5'] := by decide +kernel
  have hread : Decimal.toFloat? 15 (-1) = some 1.5 := by decide +kernel
  have hscan : scanToken '1' ['.', '5'] =
      (.number (signed false (Decimal.toFloat? 15 (-1))), []) := rfl
  rw [Number.ReadsBack, hchars, tokens_cons rfl, hscan, hread, tokens]
  rfl

end Numbers

/-! ## Containers -/

section Containers

variable {α : Type} {r : Reader α} {f : α → Json}

/-- What is read of items is read of each of them. -/
lemma readEach_eq_ok_iff {items : List Outline} {as : List α} :
    readEach r items = .ok as ↔ List.Forall₂ (fun item a => r item = .ok a) items as := by
  induction items generalizing as with
  | nil =>
    rw [List.forall₂_nil_left_iff]
    exact ⟨fun h => by cases h; rfl, fun h => by rw [h]; rfl⟩
  | cons item items ih =>
    rw [List.forall₂_cons_left_iff]
    constructor
    · intro h
      obtain ⟨a, ha, h⟩ := exists_of_bind_eq_ok h
      obtain ⟨as', has, h⟩ := exists_of_bind_eq_ok h
      cases h
      exact ⟨a, as', ha, ih.1 has, rfl⟩
    · rintro ⟨a, as', ha, has, rfl⟩
      rw [readEach, ha, ih.2 has]
      rfl

/-- What is read of members is read of each of them. -/
lemma readNamed_eq_ok_iff {members : List Member} {as : List (String × α)} :
    readNamed r members = .ok as ↔
      List.Forall₂ (fun m e => m.1 = .ok e.1 ∧ r m.2 = .ok e.2) members as := by
  induction members generalizing as with
  | nil =>
    rw [List.forall₂_nil_left_iff]
    exact ⟨fun h => by cases h; rfl, fun h => by rw [h]; rfl⟩
  | cons member members ih =>
    obtain ⟨name, value⟩ := member
    rw [List.forall₂_cons_left_iff]
    constructor
    · intro h
      obtain ⟨key, hkey, h⟩ := exists_of_bind_eq_ok h
      obtain ⟨a, ha, h⟩ := exists_of_bind_eq_ok h
      obtain ⟨as', has, h⟩ := exists_of_bind_eq_ok h
      cases h
      exact ⟨(key, a), as', ⟨eq_ok_of_orFault hkey, ha⟩, ih.1 has, rfl⟩
    · rintro ⟨⟨key, a⟩, as', ⟨rfl, ha⟩, has, rfl⟩
      rw [readNamed, ha, ih.2 has]
      rfl

lemma readList_eq_ok_iff {items : List Outline} {fault : Option Fault} {as : List α} :
    readList r (.list items fault) = .ok as ↔ readEach r items = .ok as ∧ fault = none := by
  rw [readList]
  cases readEach r items <;> cases fault <;>
    simp [bind, Except.bind, pure, Except.pure, orFault, ending, Except.mapError]

lemma readDictionary_eq_ok_iff {members : List Member} {fault : Option Fault} {d : Dictionary α} :
    readDictionary r (.record members fault) = .ok d ↔
      (∃ as, readNamed r members = .ok as ∧ Dictionary.ofList as = d) ∧ fault = none := by
  rw [readDictionary]
  cases readNamed r members <;> cases fault <;>
    simp [bind, Except.bind, pure, Except.pure, orFault, ending, Except.mapError]

/-- What is read as a list is a list that does not break off. -/
lemma exists_of_readList {o : Outline} {as : List α} (h : readList r o = .ok as) :
    ∃ items, o = .list items none ∧ readEach r items = .ok as := by
  cases o with
  | list items fault =>
    obtain ⟨heach, rfl⟩ := readList_eq_ok_iff.1 h
    exact ⟨items, rfl, heach⟩
  | null | flag | number | text | record | broken => cases h

/-- What is read as a dictionary is a record that does not break off, with repetitions. -/
lemma exists_of_readDictionary {o : Outline} {d : Dictionary α} (h : readDictionary r o = .ok d) :
    ∃ members as, o = .record members none ∧ readNamed r members = .ok as ∧
      d = Dictionary.ofList as := by
  cases o with
  | record members fault =>
    obtain ⟨⟨as, hnamed, rfl⟩, rfl⟩ := readDictionary_eq_ok_iff.1 h
    exact ⟨members, as, rfl, hnamed, rfl⟩
  | null | flag | number | text | list | broken => cases h

/-- What holds of all that is related to something holds of each of a list. -/
lemma forall_of_forall₂ {β γ : Type} {R : β → γ → Prop} {P : β → Prop} {bs : List β} {cs : List γ}
    (h : List.Forall₂ R bs cs) (hP : ∀ b c, R b c → P b) : ∀ b ∈ bs, P b := by
  induction h with
  | nil => exact nofun
  | cons hbc _ ih => exact List.forall_mem_cons.2 ⟨hP _ _ hbc, ih⟩

lemma ofItems_eq_map (items : List Json) : ofItems items = items.map Outline.ofValue := by
  induction items with
  | nil => rfl
  | cons item items ih => rw [ofItems, ih, List.map_cons]

lemma ofMembers_eq_map (members : List (String × Json)) :
    ofMembers members = members.map fun m => (.ok m.1, Outline.ofValue m.2) := by
  induction members with
  | nil => rfl
  | cons member members ih => rw [ofMembers, ih, List.map_cons]

lemma ofMembers_append (members more : List (String × Json)) :
    ofMembers (members ++ more) = ofMembers members ++ ofMembers more := by
  simp [ofMembers_eq_map]

/-- **A list reads back** if its items do. -/
theorem readList_map {as : List α} (h : ∀ a ∈ as, r (.ofValue (f a)) = .ok a) :
    readList r (.ofValue (.list (as.map f))) = .ok as := by
  rw [Outline.ofValue, readList_eq_ok_iff, readEach_eq_ok_iff]
  refine ⟨?_, rfl⟩
  rw [ofItems_eq_map, List.map_map, List.forall₂_map_left_iff, List.forall₂_same]
  exact h

/-- **A dictionary reads back** if its values do. -/
theorem readDictionary_map {d : Dictionary α}
    (h : ∀ e ∈ d.entries, r (.ofValue (f e.2)) = .ok e.2) :
    readDictionary r (.ofValue (.record (d.entries.map fun e => (e.1, f e.2)))) = .ok d := by
  rw [Outline.ofValue, readDictionary_eq_ok_iff]
  refine ⟨⟨d.entries, readNamed_eq_ok_iff.2 ?_, d.ofList_entries⟩, rfl⟩
  rw [ofMembers_eq_map, List.map_map, List.forall₂_map_left_iff, List.forall₂_same]
  exact fun e he => ⟨rfl, h e he⟩

/-- What may be missing reads back where it is there. -/
lemma readOptional_of_ok {v : Json} {a : α} (hv : v ≠ .null) (h : r (.ofValue v) = .ok a) :
    readOptional r (.ofValue v) = .ok (some a) := by
  cases v with
  | null => exact absurd rfl hv
  | flag | number | text | list | record => exact congrArg (Except.map some) h

/-- A record is read as a whole as it was written, if its values are. -/
lemma value_record {members : List (String × Json)} {depth : ℕ} (hdepth : depth < depthLimit)
    (h : ∀ m ∈ members, (Outline.ofValue m.2).value (depth + 1) = .ok m.2) :
    (Outline.ofValue (.record members)).value depth = .ok (.record members) := by
  have hmembers : readMembers (depth + 1) (ofMembers members) = .ok members := by
    induction members with
    | nil => rfl
    | cons member members ih =>
      obtain ⟨hmember, htail⟩ := List.forall_mem_cons.1 h
      rw [ofMembers, readMembers, hmember, ih htail]
      rfl
  rw [Outline.ofValue, Outline.value, if_neg (Nat.not_le.2 hdepth), hmembers]
  rfl

end Containers

/-! ## Fields -/

section Fields

variable {σ α : Type} {fields : List (Field σ)} {field : Field σ} {name : String} {s s' : σ}
  {members : List Member}

/-- **A field is read where it stands**, if it has not been read before. -/
theorem readFields_of_find {o : Outline} (hfind : fields.find? (·.name == name) = some field)
    (hset : field.isSet s = false) (hread : field.read o s = .ok s') :
    readFields fields ((.ok name, o) :: members) s = readFields fields members s' := by
  have hname : orFault (.ok name) = .ok name := rfl
  simp only [readFields, hname, bind, Except.bind, hfind, hset, Bool.false_eq_true, if_false, hread]

end Fields

end Json

end Cutscene
