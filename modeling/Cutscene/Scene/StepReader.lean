import Cutscene.Scene.Step

set_option relaxedAutoImplicit false
set_option autoImplicit false

/-!
# Reading a step

A step is read from a record. The flags are read where they stand; everything else is kept until
the end of the record, and only then the tag decides what it has to be. So the text is read to
the closing bracket before anything is said about the tag or what belongs to it.

## Main definitions

* `Cutscene.Step.read` — reads a step.
-/

namespace Cutscene.Step

open Json (Problem Member Outline orFault)

/-- The members of a step while its record is read. -/
structure Parts where
  /-- The flag for going on. -/
  autoAdvance : Option Bool
  /-- The flag for being left early. -/
  skippable : Option Bool
  /-- Everything else, in order. -/
  others : List (String × Json)

/-- Reads members up to the end of the record. -/
def readParts : List Member → Parts → Except Problem Parts
  | [], p => .ok p
  | (name, value) :: members, p => do
    let name ← orFault name
    if name = "autoAdvance" then
      if p.autoAdvance.isSome then .error (.mismatch (.duplicateField name))
      let b ← Json.readFlag value
      readParts members { p with autoAdvance := some b }
    else if name = "skippable" then
      if p.skippable.isSome then .error (.mismatch (.duplicateField name))
      let b ← Json.readFlag value
      readParts members { p with skippable := some b }
    else
      let v ← orFault (value.value 1)
      readParts members { p with others := p.others ++ [(name, v)] }

/-- The kind that a tag names: by its name, or by its number counted from zero. -/
def readKind : Json → Except Problem Kind
  | .text tag => Json.choose (Kind.all.map fun k => (k.tag, k)) tag
  | .number (.whole n) =>
    if n < 0 then .error (.mismatch (.wrongKind (.number (.whole n)) "variant identifier"))
    else match Kind.all[n.toNat]? with
      | some kind => .ok kind
      | none =>
        .error (.mismatch (.wrongValue (.number (.whole n)) "variant index 0 <= i < 5"))
  | v => .error ((Outline.ofValue v).problem "variant identifier")

/-- Takes the tag out of the members. -/
def readTag : List (String × Json) → Option Kind → Except Problem (Option Kind)
  | [], kind => .ok kind
  | (name, value) :: members, kind => do
    if name = "type" then
      if kind.isSome then .error (.mismatch (.duplicateField name))
      readTag members (some (← readKind value))
    else readTag members kind

/-- A schema of one field. -/
def single {α : Type} (title name : String) (r : Json.Reader α) : Json.Schema (Option α) α where
  title := title
  fields := [⟨name, Option.isSome, fun o _ => return some (← r o)⟩]
  start := none
  finish missing a := Json.required missing 0 name a

/-- Reads what belongs to a kind. -/
def readAction (kind : Kind) (members : List (String × Json)) : Except Problem Action :=
  let o := Outline.ofValue (.record members)
  match kind with
  | .say => return .say (← (Line.schema (Json.readChoiceAgain Side.choices)).read o)
  | .pause => return .pause (← (single "struct variant" "duration" (Json.readCount "u64")).read o)
  | .assign => return .assign (← (single "struct variant" "values" (Variables.read 0)).read o)
  | .reset => .ok .reset
  | .complete => .ok .complete

/-- Reads a step. -/
def read : Json.Reader Step
  | .record members fault => do
    let p ← readParts members ⟨none, none, []⟩
    orFault (Json.ending fault)
    match ← readTag p.others none with
    | none => .error (.mismatch (.missingField "type"))
    | some kind =>
      let action ← readAction kind (p.others.filter (·.1 != "type"))
      return ⟨action, p.autoAdvance.getD false, p.skippable.getD false⟩
  | o => .error (o.problem "struct Step")

end Cutscene.Step
