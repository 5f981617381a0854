import Cutscene.Playback.Performance
import Cutscene.Playback.Viewport

set_option relaxedAutoImplicit false
set_option autoImplicit false

/-!
# Remote controls

A renderer turns what the player does into inputs, and its remote control turns inputs into
commands. Two kinds of input are held back if the snapshot that everybody sees speaks against
them: a scene cannot be started while one is played, and the mark for going on has to be enabled.

## Main definitions

* `Cutscene.Input` — what a player does.
* `Cutscene.Input.command?` — the command that an input becomes in front of a snapshot.
* `Cutscene.Remote` — a performance and the size of the area that it is drawn into.
* `Cutscene.Remote.dispatch` — one input.
-/

namespace Cutscene

/-- What a player does. -/
inductive Input where
  /-- Asks for a scene. -/
  | trigger (name : String)
  /-- Clicks the mark for going on. -/
  | proceed
  /-- Presses the key to confirm. -/
  | confirm
  /-- Starts the scene over again. -/
  | restart
  /-- Changes the size of the screen. -/
  | resize (viewport : Viewport)
  deriving DecidableEq, Repr

/-- The command that an input becomes, given what the player sees. -/
def Input.command? (seen : Snapshot) : Input → Option Command
  | trigger name => if seen.interactionDisabled then none else some (.trigger name)
  | proceed => if seen.canProceed then some .proceed else none
  | confirm => some .confirm
  | restart => some .restart
  | resize _ => none

/-- A performance, seen through an area of some size. -/
structure Remote where
  /-- The performance. -/
  performance : Performance
  /-- The area that was last heard of. -/
  viewport : Option Viewport

namespace Remote

/-- The remote control of a performance. -/
def ofPerformance (performance : Performance) : Remote := ⟨performance, none⟩

/-- The snapshot that everybody sees. -/
def snapshot (r : Remote) : Snapshot := r.performance.snapshot

/-- Sends a command to the engine. -/
def send (r : Remote) (c : Command) : Remote × Except PlayError Unit :=
  let (performance, result) := r.performance.send c
  ({ r with performance }, result)

/-- Takes an input. -/
def dispatch (r : Remote) (input : Input) : Remote × Except PlayError Unit :=
  let r := match input with
    | .resize viewport => { r with viewport := some viewport }
    | .trigger _ | .proceed | .confirm | .restart => r
  match input.command? r.snapshot with
  | some command => r.send command
  | none => (r, .ok ())

/-- Lets time pass. -/
def wait (r : Remote) (nanos : Nat) : Remote :=
  { r with performance := r.performance.wait nanos }

/-- Stops the engine. -/
def shutdown (r : Remote) : Remote := { r with performance := r.performance.shutdown }

end Remote

end Cutscene
