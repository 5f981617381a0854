import Cutscene.Duration
import Cutscene.Scene.Line
import Cutscene.Scene.Variables

set_option relaxedAutoImplicit false
set_option autoImplicit false

/-!
# Steps

A scene is a list of steps. A step does one thing, and two flags say how it is left: on its own
once its effect is over, or by the player while the effect still runs.

## Main definitions

* `Cutscene.Action` — what a step does.
* `Cutscene.Kind` — which of the five things, with its tag in scripts.
* `Cutscene.Step` — an action and the two flags.
* `Cutscene.Step.toJson` — a step in scripts.
-/

namespace Cutscene

/-- What a step does. -/
inductive Action where
  /-- Shows a bubble and types its line. -/
  | say (line : Line)
  /-- Waits a number of milliseconds. -/
  | pause (millis : UInt64)
  /-- Writes display variables. -/
  | assign (values : Variables)
  /-- Takes all bubbles away. -/
  | reset
  /-- Ends the scene. -/
  | complete

/-- The kind of an action. -/
inductive Kind where
  /-- See `Action.say`. -/
  | say
  /-- See `Action.pause`. -/
  | pause
  /-- See `Action.assign`. -/
  | assign
  /-- See `Action.reset`. -/
  | reset
  /-- See `Action.complete`. -/
  | complete
  deriving DecidableEq, Repr

namespace Kind

/-- All the kinds, in the order of the script format. -/
def all : List Kind := [say, pause, assign, reset, complete]

/-- The tag of a kind in scripts. -/
def tag : Kind → String
  | say => "DIALOGUE"
  | pause => "DELAY"
  | assign => "SET_VALUE"
  | reset => "RESET"
  | complete => "COMPLETE"

/-- The kind of a tag. -/
def ofTag? (tag : String) : Option Kind := all.find? (·.tag == tag)

end Kind

/-- The kind of an action. -/
def Action.kind : Action → Kind
  | .say _ => .say
  | .pause _ => .pause
  | .assign _ => .assign
  | .reset => .reset
  | .complete => .complete

/-- One instruction of a scene. -/
structure Step where
  /-- What it does. -/
  action : Action
  /-- Whether playback goes on by itself once the effect is over. -/
  autoAdvance : Bool := false
  /-- Whether the player may leave the step while its effect runs. -/
  skippable : Bool := false

namespace Step

/-- The kind of a step. -/
def kind (s : Step) : Kind := s.action.kind

/-- Whether a step ends its scene. -/
def isComplete (s : Step) : Bool := s.kind == .complete

/-- Whether a step is a line of dialogue. -/
def isSay (s : Step) : Bool := s.kind == .say

/-- The line of a step that has one. -/
def line? (s : Step) : Option Line :=
  match s.action with
  | .say line => some line
  | _ => none

/-- The pause of a step that has one, as it is written. -/
def pause? (s : Step) : Option Duration :=
  match s.action with
  | .pause millis => some (.ofMillis millis)
  | _ => none

/-- The members that belong to the kind of a step. -/
def payload (s : Step) : List (String × Json) :=
  match s.action with
  | .say line => line.members
  | .pause millis => [("duration", .count millis.toNat)]
  | .assign values => [("values", values.toJson)]
  | .reset => []
  | .complete => []

/-- A step in scripts: its tag, what belongs to its kind, and both flags. -/
def toJson (s : Step) : Json :=
  .record (("type", .text s.kind.tag) :: s.payload ++
    [("autoAdvance", .flag s.autoAdvance), ("skippable", .flag s.skippable)])

end Step

end Cutscene
