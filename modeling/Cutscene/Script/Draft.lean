import Cutscene.Scene.Variables
import Cutscene.Scene.Line

set_option relaxedAutoImplicit false
set_option autoImplicit false

/-!
# Drafts

A draft is a script as it is written down: step lists by scene, with nothing about the steps
checked but the kinds of their fields. All that belongs to a particular kind of step may be
missing, so that what is wrong with a step can be said with its scene and place.

## Main definitions

* `Cutscene.StepDraft` — a step as it is written.
* `Cutscene.Draft` — the steps of each scene, by name.
* `Cutscene.Draft.ofText`, `Cutscene.Draft.toJson` — drafts in their text form.
-/

namespace Cutscene

/-- A step as it is written. -/
structure StepDraft where
  /-- The tag that says what the step does. -/
  tag : String
  /-- The speaker of a line. -/
  speaker : Option String := none
  /-- The text of a line. -/
  text : Option String := none
  /-- The side of a line. -/
  side : Option Side := none
  /-- The length of a pause in milliseconds. -/
  millis : Option UInt64 := none
  /-- The variables to write. -/
  values : Option Variables := none
  /-- Whether playback goes on by itself once the effect is over. -/
  autoAdvance : Bool := false
  /-- Whether the player may leave the step while its effect runs. -/
  skippable : Bool := false

namespace StepDraft

/-- A member that is left out where there is nothing to write. -/
def member {α : Type} (name : String) (f : α → Json) (field : Option α) :
    List (String × Json) :=
  (field.map fun a => (name, f a)).toList

/-- A step draft in JSON. The flags are always there, the rest only where it is given. -/
def toJson (d : StepDraft) : Json :=
  .record (("type", .text d.tag) :: (member "speaker" .text d.speaker ++
    member "text" .text d.text ++ member "align" (fun side => .text side.name) d.side ++
    member "duration" (fun ms => .count ms.toNat) d.millis ++
    member "values" Variables.toJson d.values ++
    [("autoAdvance", .flag d.autoAdvance), ("skippable", .flag d.skippable)]))

/-! ## Reading -/

/-- A step draft that is being read; the outer option of a field says whether it has been met. -/
structure Parts where
  /-- The tag. -/
  tag : Option String := none
  /-- The speaker. -/
  speaker : Option (Option String) := none
  /-- The text. -/
  text : Option (Option String) := none
  /-- The side. -/
  side : Option (Option Side) := none
  /-- The length of a pause. -/
  millis : Option (Option UInt64) := none
  /-- The variables. -/
  values : Option (Option Variables) := none
  /-- The flag for going on. -/
  autoAdvance : Option Bool := none
  /-- The flag for being left early. -/
  skippable : Option Bool := none

/-- The fields of a step draft that lies inside `depth` containers. -/
def schema (depth : Nat) : Json.Schema Parts StepDraft where
  title := "struct RawStep"
  fields := [
    ⟨"type", fun p => p.tag.isSome,
      fun o p => return { p with tag := some (← Json.readString o) }⟩,
    ⟨"speaker", fun p => p.speaker.isSome,
      fun o p => return { p with speaker := some (← Json.readOptional Json.readString o) }⟩,
    ⟨"text", fun p => p.text.isSome,
      fun o p => return { p with text := some (← Json.readOptional Json.readString o) }⟩,
    ⟨"align", fun p => p.side.isSome,
      fun o p => return { p with
        side := some (← Json.readOptional (Json.readChoice Side.choices) o) }⟩,
    ⟨"duration", fun p => p.millis.isSome,
      fun o p => return { p with millis := some (← Json.readOptional (Json.readCount "u64") o) }⟩,
    ⟨"values", fun p => p.values.isSome,
      fun o p => return { p with
        values := some (← Json.readOptional (Variables.read (depth + 1)) o) }⟩,
    ⟨"autoAdvance", fun p => p.autoAdvance.isSome,
      fun o p => return { p with autoAdvance := some (← Json.readFlag o) }⟩,
    ⟨"skippable", fun p => p.skippable.isSome,
      fun o p => return { p with skippable := some (← Json.readFlag o) }⟩]
  start := {}
  finish missing p := do
    let tag ← Json.required missing 0 "type" p.tag
    return ⟨tag, p.speaker.join, p.text.join, p.side.join, p.millis.join, p.values.join,
      p.autoAdvance.getD false, p.skippable.getD false⟩

/-- Reads a step draft that lies inside `depth` containers. -/
def read (depth : Nat) : Json.Reader StepDraft := (schema depth).read

end StepDraft

/-- A script as it is written: the steps of each scene. -/
structure Draft where
  /-- Steps by the name of their scene. -/
  scenes : Dictionary (List StepDraft)

namespace Draft

/-- A draft in JSON. -/
def toJson (d : Draft) : Json :=
  .record [("scenes",
    .record (d.scenes.entries.map fun (name, steps) => (name, .list (steps.map StepDraft.toJson))))]

/-- The fields of a draft. -/
def schema : Json.Schema (Option (Dictionary (List StepDraft))) Draft where
  title := "struct RawScript"
  fields := [
    ⟨"scenes", Option.isSome,
      fun o _ => return some (← Json.readDictionary (Json.readList (StepDraft.read 3)) o)⟩]
  start := none
  finish missing scenes := return ⟨← Json.required missing 0 "scenes" scenes⟩

/-- Reads a draft. -/
def read : Json.Reader Draft := schema.read

/-- Reads the text of a draft. -/
def ofText (text : String) : Except Json.Problem Draft := Json.readText read text

end Draft

end Cutscene
