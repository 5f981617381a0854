import Cutscene.Proofs.Script.Drafts
import Cutscene.Scene.StepReader
import Cutscene.Script.Compilation

set_option relaxedAutoImplicit false
set_option autoImplicit false

/-!
# Steps in their text form

The text of a step is read in two ways that have nothing in common. As a part of a script it is
first a draft, whose fields are all optional, and compiled afterwards. By itself it is read by a
reader that keeps what it meets until it knows the tag, and then reads what it has kept again. Both
give the step that was written.

## Main definitions

* `Cutscene.Step.draft` — a step as it is written down.

## Main results

* `Cutscene.Step.toJson_draft`, `Cutscene.Step.compile_draft` — a step and its draft have the same
  text, and the draft compiles to the step.
* `Cutscene.Step.read_toJson` — a step is read as it was written.
-/

namespace Cutscene

open Json (Outline)

/-! ## Drafts of steps -/

namespace Step

/-- The floats among the values that a step writes. -/
def floats (s : Step) : List Float :=
  match s.action with
  | .assign values => values.floats
  | .say _ | .pause _ | .reset | .complete => []

/-- The draft of a step. -/
def draft (s : Step) : StepDraft :=
  let base : StepDraft :=
    { tag := s.kind.tag, autoAdvance := s.autoAdvance, skippable := s.skippable }
  match s.action with
  | .say line =>
    { base with speaker := some line.speaker, text := some line.text, side := some line.side }
  | .pause millis => { base with millis := some millis }
  | .assign values => { base with values := some values }
  | .reset | .complete => base

lemma toJson_draft (s : Step) : s.draft.toJson = s.toJson := by
  obtain ⟨action, autoAdvance, skippable⟩ := s
  cases action <;> rfl

lemma floats_draft (s : Step) : s.draft.floats = s.floats := by
  obtain ⟨action, autoAdvance, skippable⟩ := s
  cases action <;> rfl

/-- **The draft of a step compiles to the step.** -/
lemma compile_draft (scene : String) (index : ℕ) (s : Step) :
    s.draft.compile scene index = .ok s := by
  obtain ⟨action, autoAdvance, skippable⟩ := s
  cases action <;> rfl

/-- The numbers in a step read back if its floats do. -/
lemma readsBack_toJson {s : Step} (h : ∀ x ∈ s.floats, (Json.Number.real x).ReadsBack) :
    s.toJson.ReadsBack := by
  rw [← s.toJson_draft]
  refine StepDraft.readsBack_toJson ?_
  rwa [s.floats_draft]

end Step

/-! ## Reading steps -/

/-- Variables are read as a whole as they were written. -/
lemma Variables.value_toJson (vars : Variables) :
    (Outline.ofValue vars.toJson).value 1 = .ok vars.toJson := by
  refine Json.value_record (by decide) fun m hm => ?_
  obtain ⟨⟨name, v⟩, -, rfl⟩ := List.mem_map.1 hm
  cases v <;> rfl

/-- The name of a side is read again as the side. -/
lemma Side.readAgain_name (side : Side) :
    Json.readChoiceAgain Side.choices (.ofValue (.text side.name)) = .ok side := by
  cases side <;> rfl

/-- A line is read as it was written, by any reader that knows the sides. -/
lemma Line.read_members {r : Json.Reader Side} (line : Line)
    (h : r (.ofValue (.text line.side.name)) = .ok line.side) :
    (schema r).read (.ofValue (.record line.members)) = .ok line := by
  have hfields :
      Json.readFields (schema r).fields (Json.ofMembers line.members) ⟨none, none, none⟩ =
        .ok ⟨some line.speaker, some line.text, some line.side⟩ := by
    simp only [members, Json.ofMembers]
    refine (Json.readFields_of_find rfl rfl rfl).trans ?_
    refine (Json.readFields_of_find rfl rfl rfl).trans ?_
    exact (Json.readFields_of_find rfl rfl (congrArg (· >>= _) h)).trans rfl
  exact congrArg (· >>= _) hfields

namespace Step

/-- The one field of a kind is read as it was written. -/
lemma read_single {α : Type} {title name : String} {r : Json.Reader α} {v : Json} {a : α}
    (h : r (.ofValue v) = .ok a) :
    (single title name r).read (.ofValue (.record [(name, v)])) = .ok a := by
  have hfields : Json.readFields (single title name r).fields (Json.ofMembers [(name, v)]) none =
      .ok (some a) := by
    have hfind : (single title name r).fields.find? (·.name == name) =
        some ⟨name, Option.isSome, fun o _ => return some (← r o)⟩ := by simp [single]
    exact (Json.readFields_of_find hfind rfl (congrArg (· >>= _) h)).trans rfl
  exact congrArg (· >>= _) hfields

variable (s : Step)

/-- What belongs to a kind has names of its own. -/
lemma name_of_mem_payload {m : String × Json} (h : m ∈ s.payload) :
    m.1 ≠ "type" ∧ m.1 ≠ "autoAdvance" ∧ m.1 ≠ "skippable" := by
  obtain ⟨action, autoAdvance, skippable⟩ := s
  cases action with
  | say line =>
    simp only [payload, Line.members, List.mem_cons, List.not_mem_nil, or_false] at h
    rcases h with rfl | rfl | rfl <;> simp
  | pause millis =>
    cases List.mem_singleton.1 h
    simp
  | assign values =>
    cases List.mem_singleton.1 h
    simp
  | reset | complete => cases h

/-- What belongs to the kind of a step is read as a whole as it was written. -/
lemma value_of_mem_payload {m : String × Json} (h : m ∈ s.payload) :
    (Outline.ofValue m.2).value 1 = .ok m.2 := by
  obtain ⟨action, autoAdvance, skippable⟩ := s
  cases action with
  | say line =>
    simp only [payload, Line.members, List.mem_cons, List.not_mem_nil, or_false] at h
    rcases h with rfl | rfl | rfl <;> rfl
  | pause millis =>
    cases List.mem_singleton.1 h
    rfl
  | assign values =>
    cases List.mem_singleton.1 h
    exact values.value_toJson
  | reset | complete => cases h

/-- Members that are no flags are kept in order. -/
lemma readParts_append {members : List (String × Json)} {rest : List Json.Member} {p : Parts}
    (h : ∀ m ∈ members, m.1 ≠ "autoAdvance" ∧ m.1 ≠ "skippable" ∧
      (Outline.ofValue m.2).value 1 = .ok m.2) :
    readParts (Json.ofMembers members ++ rest) p =
      readParts rest { p with others := p.others ++ members } := by
  induction members generalizing p with
  | nil => simp [Json.ofMembers]
  | cons member members ih =>
    obtain ⟨⟨hauto, hskip, hvalue⟩, htail⟩ := List.forall_mem_cons.1 h
    have hhead : readParts (Json.ofMembers (member :: members) ++ rest) p =
        readParts (Json.ofMembers members ++ rest) { p with others := p.others ++ [member] } := by
      simp only [Json.ofMembers, List.cons_append, readParts, Json.orFault, Except.mapError, bind,
        Except.bind, if_neg hauto, if_neg hskip, hvalue]
    rw [hhead, ih htail]
    simp

/-- Both flags are read, and everything else is kept in order. -/
lemma readParts_toJson :
    readParts (Json.ofMembers (("type", .text s.kind.tag) :: s.payload ++
      [("autoAdvance", .flag s.autoAdvance), ("skippable", .flag s.skippable)])) ⟨none, none, []⟩ =
      .ok ⟨some s.autoAdvance, some s.skippable, ("type", .text s.kind.tag) :: s.payload⟩ := by
  have hmembers : ∀ m ∈ ("type", Json.text s.kind.tag) :: s.payload, m.1 ≠ "autoAdvance" ∧
      m.1 ≠ "skippable" ∧ (Outline.ofValue m.2).value 1 = .ok m.2 := by
    refine List.forall_mem_cons.2 ⟨⟨by simp, by simp, rfl⟩, fun m hm => ?_⟩
    obtain ⟨-, hauto, hskip⟩ := s.name_of_mem_payload hm
    exact ⟨hauto, hskip, s.value_of_mem_payload hm⟩
  rw [Json.ofMembers_append, readParts_append hmembers]
  rfl

/-- The tag is found among what has been kept. -/
lemma readTag_payload :
    readTag (("type", .text s.kind.tag) :: s.payload) none = .ok (some s.kind) := by
  have hrest : ∀ members : List (String × Json), (∀ m ∈ members, m.1 ≠ "type") →
      readTag members (some s.kind) = .ok (some s.kind) := by
    intro members h
    induction members with
    | nil => rfl
    | cons member members ih =>
      obtain ⟨hmember, htail⟩ := List.forall_mem_cons.1 h
      rw [readTag, if_neg hmember, ih htail]
  have htag : readKind (.text s.kind.tag) = .ok s.kind := by
    cases s.kind <;> rfl
  simp only [readTag, if_true, htag]
  exact hrest s.payload fun m hm => (s.name_of_mem_payload hm).1

/-- What belongs to a kind is read as it was written. -/
lemma readAction_payload : readAction s.kind s.payload = .ok s.action := by
  obtain ⟨action, autoAdvance, skippable⟩ := s
  cases action with
  | say line => exact congrArg (· >>= _) (line.read_members line.side.readAgain_name)
  | pause millis => exact congrArg (· >>= _) (read_single (Json.readCount_count "u64" millis))
  | assign values => exact congrArg (· >>= _) (read_single (values.read_toJson 0))
  | reset | complete => rfl

/-- **A step is read as it was written.** -/
theorem read_toJson : read (.ofValue s.toJson) = .ok s := by
  have hfilter : (("type", Json.text s.kind.tag) :: s.payload).filter (·.1 != "type") =
      s.payload := by
    rw [List.filter_cons_of_neg (by simp), List.filter_eq_self]
    exact fun m hm => bne_iff_ne.2 (s.name_of_mem_payload hm).1
  rw [toJson, Outline.ofValue, read, readParts_toJson]
  change (readTag (("type", .text s.kind.tag) :: s.payload) none >>= _) = _
  rw [readTag_payload]
  change (readAction s.kind ((("type", Json.text s.kind.tag) :: s.payload).filter _) >>= _) = _
  rw [hfilter, readAction_payload]
  rfl

end Step

end Cutscene
