import Cutscene.Playback.Effect
import Cutscene.Scene.Basic
import Cutscene.Scene.Bubble

set_option relaxedAutoImplicit false
set_option autoImplicit false

/-!
# The playback state

What changes while scenes are played: which scene and where in it, the bubbles on screen, the
display variables, and the effect that is running.

## Main definitions

* `Cutscene.Session` — a scene and the place of the current step.
* `Cutscene.State` — the playback state; `State.idle` is where it starts.
* `Cutscene.State.startEffect`, `Cutscene.State.finishEffect?`, `Cutscene.State.cancelEffect` —
  the life of an effect.
* `Cutscene.State.leaveStep` — leaving the current step for the one after it.
-/

namespace Cutscene

section Lists

variable {α : Type}

/-- Changes the last item of a list. -/
def modifyLast (f : α → α) : List α → List α
  | [] => []
  | [a] => [f a]
  | a :: b :: l => a :: modifyLast f (b :: l)

@[simp] theorem modifyLast_append_singleton (f : α → α) (l : List α) (a : α) :
    modifyLast f (l ++ [a]) = l ++ [f a] := by
  induction l with
  | nil => rfl
  | cons b l ih =>
    cases l with
    | nil => rfl
    | cons c l => simpa [modifyLast] using ih

@[simp] theorem length_modifyLast (f : α → α) (l : List α) :
    (modifyLast f l).length = l.length := by
  rcases List.eq_nil_or_concat l with rfl | ⟨l, a, rfl⟩ <;> simp [modifyLast]

end Lists

/-- The scene that is played, and where. -/
structure Session where
  /-- The scene. -/
  scene : Scene
  /-- The index of the current step. -/
  cursor : Nat

/-- The current step, if the cursor is within the scene. -/
def Session.step? (s : Session) : Option Step := s.scene.steps[s.cursor]?

/-- The effect that is running. -/
structure Running where
  /-- Its ticket. -/
  ticket : Ticket
  /-- Whether playback goes on by itself when it is over. -/
  autoAdvance : Bool
  /-- Whether it types a line. -/
  typing : Bool
  deriving DecidableEq

/-- The playback state. -/
structure State where
  /-- The scene that is played. -/
  session : Option Session
  /-- The bubbles on screen, oldest first. -/
  bubbles : List Bubble
  /-- The display variables. -/
  values : Variables
  /-- Whether a line is being typed. -/
  typing : Bool
  /-- The number of effects started so far. -/
  generation : Nat
  /-- The effect that is running. -/
  running : Option Running

namespace State

/-- Nothing is played and nothing has been. -/
def idle : State := ⟨none, [], .empty, false, 0, none⟩

instance : Inhabited State := ⟨idle⟩

/-! ## Questions -/

/-- Whether a scene is played. -/
def isActive (s : State) : Bool := s.session.isSome

/-- The step under the cursor. -/
def step? (s : State) : Option Step := s.session.bind Session.step?

/-- Whether only the player can move things on: a scene is played and no effect is running. -/
def isWaiting (s : State) : Bool := s.session.isSome && s.running.isNone

/-- Whether a ticket is that of the running effect. -/
def isCurrent (s : State) (ticket : Ticket) : Bool := s.running.any (·.ticket == ticket)

/-- Whether the player may leave a step now: it can be left any time, or it is a line that has been
typed to its end. -/
def mayLeave (s : State) (step : Step) : Bool := step.skippable || (step.isSay && !s.typing)

/-! ## Effects -/

/-- Starts an effect under the next number. -/
def startEffect (s : State) (autoAdvance typing : Bool) : State × Ticket :=
  let ticket := ⟨s.generation + 1⟩
  ({ s with generation := s.generation + 1, running := some ⟨ticket, autoAdvance, typing⟩ }, ticket)

/-- Shows the newest line to its end. -/
def completeTyping (s : State) : State :=
  { s with bubbles := modifyLast Bubble.revealAll s.bubbles, typing := false }

/-- Takes the running effect away if the ticket is its own. -/
def finishEffect? (s : State) (ticket : Ticket) : Option (Running × State) :=
  match s.running with
  | some effect =>
    if effect.ticket = ticket then some (effect, { s with running := none }) else none
  | none => none

/-- Drops the running effect. A line cut short this way shows its whole text. -/
def cancelEffect (s : State) : State :=
  match s.running with
  | none => s
  | some effect =>
    let s := { s with running := none }
    if effect.typing then s.completeTyping else s

/-! ## Steps -/

/-- Starts a scene at its first step. -/
def startSession (s : State) (scene : Scene) : State := { s with session := some ⟨scene, 0⟩ }

/-- Ends the scene. -/
def endSession (s : State) : State := { s with session := none }

/-- Takes all bubbles away. -/
def clearBubbles (s : State) : State := { s with bubbles := [] }

/-- Moves the cursor to the next step. -/
def advance (s : State) : State :=
  { s with session := s.session.map fun session => { session with cursor := session.cursor + 1 } }

/-- Leaves the current step for the next one. Its effect is dropped, and a line that is left keeps
its bubble without the mark for going on. -/
def leaveStep (s : State) : State :=
  let wasLine := s.step?.any Step.isSay
  let s := s.cancelEffect
  let s := if wasLine then { s with bubbles := modifyLast Bubble.hideProceed s.bubbles } else s
  s.advance

/-- Ends the scene wherever it is and takes everything away that it put on screen. -/
def clearPlayback (s : State) : State :=
  { s.cancelEffect with typing := false, bubbles := [], session := none }

end State

end Cutscene
