import Cutscene.Script.Draft
import Cutscene.Proofs.Json.Reading

set_option relaxedAutoImplicit false
set_option autoImplicit false

/-!
# Drafts in their text form

Reading undoes writing for every part of a draft: values keep their form, so that a whole number
stays one and a float stays a float, fields that are left out stay left out, and scenes and
variables come back in the order of their names.

## Main definitions

* `Cutscene.Draft.floats` — the floats among the values in a draft.
* `Cutscene.StepDraft.parts` — a step draft as it is read.

## Main results

* `Cutscene.StepDraft.read_toJson`, `Cutscene.Draft.read_toJson` — drafts are read as they were
  written.
* `Cutscene.Draft.readsBack_toJson` — the numbers in a draft read back if its floats do.
* `Cutscene.Draft.ofText_of_spells` — a text that spells a draft is read as the draft.
-/

namespace Cutscene

open Json (Outline)

/-! ## Values -/

namespace Value

/-- The float that a value is, if it is one. -/
def float? : Value → Option Float
  | .real x => some x
  | .flag _ | .whole _ | .text _ => none

/-- A whole number of 64 bits with a sign stays one. -/
lemma ofInt_toInt (n : Int64) : ofInt n.toInt = .whole n := by
  have hlow := n.le_toInt
  have hhigh := n.toInt_lt
  rw [ofInt, if_pos (by omega), Int64.ofInt_toInt]

/-- A value is read as it was written. -/
lemma read_toJson (depth : ℕ) (v : Value) : read depth (.ofValue v.toJson) = .ok v := by
  cases v with
  | whole n => exact congrArg Except.ok (ofInt_toInt n)
  | flag | real | text => rfl

/-- The number that is written for a value reads back, if it is a whole one or a float that does. -/
lemma readsBack_toJson {v : Value} (h : ∀ x ∈ v.float?, (Json.Number.real x).ReadsBack) :
    v.toJson.ReadsBack := by
  cases v with
  | flag b => exact Json.readsBack_flag b
  | text s => exact Json.readsBack_text s
  | real x => exact Json.readsBack_number.2 (h x rfl)
  | whole n =>
    have hlow := n.le_toInt
    have hhigh := n.toInt_lt
    have hsize : UInt64.size = 18446744073709551616 := rfl
    exact Json.readsBack_number.2 (Json.readsBack_whole (by omega) (by omega))

end Value

namespace Variables

/-- The floats among variables. -/
def floats (vars : Variables) : List Float := vars.entries.filterMap fun e => e.2.float?

/-- Variables are read as they were written. -/
lemma read_toJson (depth : ℕ) (vars : Variables) : read depth (.ofValue vars.toJson) = .ok vars :=
  Json.readDictionary_map fun e _ => e.2.read_toJson (depth + 1)

lemma readsBack_toJson {vars : Variables} (h : ∀ x ∈ vars.floats, (Json.Number.real x).ReadsBack) :
    vars.toJson.ReadsBack := by
  refine Json.readsBack_record fun m hm => ?_
  obtain ⟨e, he, rfl⟩ := List.mem_map.1 hm
  exact Value.readsBack_toJson fun x hx => h x (List.mem_filterMap.2 ⟨e, he, hx⟩)

end Variables

/-- The name of a side is read as the side. -/
lemma Side.read_name (side : Side) :
    Json.readChoice Side.choices (.ofValue (.text side.name)) = .ok side := by
  cases side <;> rfl

/-- A number of 64 bits without sign is read as it was written. -/
lemma Json.readCount_count (wanted : String) (n : UInt64) :
    readCount wanted (.ofValue (count n.toNat)) = .ok n := by
  have hlt : n.toNat < UInt64.size := n.toNat_lt
  simp [count, whole, Outline.ofValue, readCount, hlt]

/-! ## Steps -/

namespace StepDraft

/-- The members that a step draft is written with. -/
def members (d : StepDraft) : List (String × Json) :=
  ("type", .text d.tag) :: (member "speaker" .text d.speaker ++ member "text" .text d.text ++
    member "align" (fun side => .text side.name) d.side ++
    member "duration" (fun millis => .count millis.toNat) d.millis ++
    member "values" Variables.toJson d.values ++
    [("autoAdvance", .flag d.autoAdvance), ("skippable", .flag d.skippable)])

/-- A step draft as it is read: a field that is left out has not been met. -/
def parts (d : StepDraft) : Parts :=
  ⟨some d.tag, d.speaker.map some, d.text.map some, d.side.map some, d.millis.map some,
    d.values.map some, some d.autoAdvance, some d.skippable⟩

/-- The floats among the values in a step draft. -/
def floats (d : StepDraft) : List Float := d.values.elim [] Variables.floats

section Fields

variable {σ α : Type} {fields : List (Json.Field σ)} {field : Json.Field σ} {name : String} {s : σ}
  {rest : List Json.Member} {f : α → Json} {o : Option α}

/-- A field that may be left out is read where it stands, and otherwise nothing changes. -/
lemma readFields_member (s' : σ) (hfind : fields.find? (·.name == name) = some field)
    (hset : field.isSet s = false) (hnone : o = none → s' = s)
    (hsome : ∀ a, o = some a → field.read (.ofValue (f a)) s = .ok s') :
    Json.readFields fields (Json.ofMembers (member name f o) ++ rest) s =
      Json.readFields fields rest s' := by
  cases o with
  | none =>
    rw [hnone rfl]
    rfl
  | some a => exact Json.readFields_of_find hfind hset (hsome a rfl)

end Fields

/-- The members of a step draft are read one after the other.

**Proof sketch.** One field at a time: what has been read so far says nothing of the fields behind,
so none of them counts as having come twice. -/
lemma readFields_members (depth : ℕ) (d : StepDraft) :
    Json.readFields (schema depth).fields (Json.ofMembers d.members) {} = .ok d.parts := by
  have hside : ∀ side : Side, Json.readOptional (Json.readChoice Side.choices)
      (.ofValue (.text side.name)) = .ok (some side) :=
    fun side => Json.readOptional_of_ok nofun side.read_name
  have hmillis : ∀ millis : UInt64, Json.readOptional (Json.readCount "u64")
      (.ofValue (.count millis.toNat)) = .ok (some millis) :=
    fun millis => Json.readOptional_of_ok nofun (Json.readCount_count "u64" millis)
  have hvalues : ∀ vars : Variables, Json.readOptional (Variables.read (depth + 1))
      (.ofValue vars.toJson) = .ok (some vars) :=
    fun vars => Json.readOptional_of_ok nofun (vars.read_toJson (depth + 1))
  obtain ⟨tag, speaker, text, side, millis, values, autoAdvance, skippable⟩ := d
  simp only [members, Json.ofMembers, Json.ofMembers_append, List.append_assoc]
  refine (Json.readFields_of_find rfl rfl rfl).trans ?_
  rw [readFields_member ⟨some tag, speaker.map some, none, none, none, none, none, none⟩ rfl rfl
      (by rintro rfl; rfl) (by rintro _ rfl; rfl),
    readFields_member ⟨some tag, speaker.map some, text.map some, none, none, none, none, none⟩
      rfl rfl (by rintro rfl; rfl) (by rintro _ rfl; rfl),
    readFields_member ⟨some tag, speaker.map some, text.map some, side.map some, none, none, none,
      none⟩ rfl rfl (by rintro rfl; rfl) (by rintro _ rfl; simp only [hside]; rfl),
    readFields_member ⟨some tag, speaker.map some, text.map some, side.map some, millis.map some,
      none, none, none⟩ rfl rfl (by rintro rfl; rfl) (by rintro _ rfl; simp only [hmillis]; rfl),
    readFields_member ⟨some tag, speaker.map some, text.map some, side.map some, millis.map some,
      values.map some, none, none⟩ rfl rfl (by rintro rfl; rfl)
      (by rintro _ rfl; simp only [hvalues]; rfl)]
  rfl

/-- **A step draft is read as it was written.** -/
theorem read_toJson (depth : ℕ) (d : StepDraft) : read depth (.ofValue d.toJson) = .ok d := by
  have hjoin : ∀ {α : Type} (o : Option α), (o.map some).join = o := by
    intro α o
    cases o <;> rfl
  have hparts : read depth (.ofValue d.toJson) = (schema depth).finish
      (fun _ name => .mismatch (.missingField name)) d.parts := by
    simp only [toJson, Outline.ofValue, read, Json.Schema.read]
    exact congrArg (· >>= _) (readFields_members depth d)
  rw [hparts]
  obtain ⟨tag, speaker, text, side, millis, values, autoAdvance, skippable⟩ := d
  simp only [schema, parts, Json.required, hjoin]
  rfl

lemma readsBack_toJson {d : StepDraft} (h : ∀ x ∈ d.floats, (Json.Number.real x).ReadsBack) :
    d.toJson.ReadsBack := by
  have hmember : ∀ {α : Type} {name : String} {f : α → Json} {o : Option α},
      (∀ a ∈ o, (f a).ReadsBack) → ∀ m ∈ member name f o, m.2.ReadsBack := by
    intro α name f o hf m hm
    obtain ⟨a, ha, rfl⟩ := Option.map_eq_some_iff.1 (Option.mem_toList.1 hm)
    exact hf a ha
  have hvalues : ∀ vars ∈ d.values, vars.toJson.ReadsBack := by
    intro vars hvars
    refine Variables.readsBack_toJson fun x hx => h x ?_
    rw [floats, Option.mem_def.1 hvars]
    exact hx
  refine Json.readsBack_record fun m hm => ?_
  simp only [List.mem_cons, List.mem_append, List.not_mem_nil, or_false] at hm
  rcases hm with rfl | ((((hm | hm) | hm) | hm) | hm) | rfl | rfl
  · exact Json.readsBack_text d.tag
  · exact hmember (fun speaker _ => Json.readsBack_text speaker) m hm
  · exact hmember (fun text _ => Json.readsBack_text text) m hm
  · exact hmember (fun side _ => Json.readsBack_text side.name) m hm
  · exact hmember (fun millis _ => Json.readsBack_count millis) m hm
  · exact hmember hvalues m hm
  · exact Json.readsBack_flag d.autoAdvance
  · exact Json.readsBack_flag d.skippable

end StepDraft

/-! ## Drafts -/

namespace Draft

/-- The floats among the values in a draft. -/
def floats (d : Draft) : List Float :=
  d.scenes.entries.flatMap fun e => e.2.flatMap StepDraft.floats

/-- **A draft is read as it was written.** -/
theorem read_toJson (d : Draft) : read (.ofValue d.toJson) = .ok d := by
  have hsteps : ∀ steps : List StepDraft, Json.readList (StepDraft.read 3)
      (.ofValue (.list (steps.map StepDraft.toJson))) = .ok steps :=
    fun steps => Json.readList_map fun step _ => step.read_toJson 3
  have hscenes : Json.readDictionary (Json.readList (StepDraft.read 3))
      (.ofValue (.record (d.scenes.entries.map fun e => (e.1, .list (e.2.map StepDraft.toJson))))) =
        .ok d.scenes :=
    Json.readDictionary_map (f := fun steps => .list (steps.map StepDraft.toJson))
      fun e _ => hsteps e.2
  have hfields : Json.readFields schema.fields (Json.ofMembers [("scenes",
      .record (d.scenes.entries.map fun e => (e.1, .list (e.2.map StepDraft.toJson))))]) none =
        .ok (some d.scenes) := by
    refine Json.readFields_of_find rfl rfl ?_
    simp only [hscenes]
    rfl
  exact congrArg (· >>= _) hfields

/-- The numbers in a draft read back if its floats do. -/
theorem readsBack_toJson {d : Draft} (h : ∀ x ∈ d.floats, (Json.Number.real x).ReadsBack) :
    d.toJson.ReadsBack := by
  have hstep : ∀ e ∈ d.scenes.entries, ∀ step ∈ e.2, step.toJson.ReadsBack := by
    intro e he step hstep
    refine StepDraft.readsBack_toJson fun x hx => h x ?_
    exact List.mem_flatMap.2 ⟨e, he, List.mem_flatMap.2 ⟨step, hstep, hx⟩⟩
  refine Json.readsBack_record fun m hm => ?_
  obtain rfl := List.mem_singleton.1 hm
  refine Json.readsBack_record fun m hm => ?_
  obtain ⟨e, he, rfl⟩ := List.mem_map.1 hm
  refine Json.readsBack_list fun v hv => ?_
  obtain ⟨step, hmem, rfl⟩ := List.mem_map.1 hv
  exact hstep e he step hmem

/-- **A text that spells a draft is read as the draft.** -/
theorem ofText_of_spells {text : String} {d : Draft} (h : Json.Spells text d.toJson) :
    ofText text = .ok d := by
  rw [ofText, Json.readText_of_spells h, read_toJson]

end Draft

end Cutscene
