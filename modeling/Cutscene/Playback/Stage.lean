import Cutscene.Playback.Settings
import Cutscene.Playback.State
import Cutscene.Random.Identifiers
import Cutscene.Scene.Repertoire

set_option relaxedAutoImplicit false
set_option autoImplicit false

/-!
# The stage

The stage plays the scenes of a repertoire. It knows nothing of time: an operation that starts an
effect hands it out, and whoever runs the effect reports back with its ticket, a character at a
time and once when it is over. Reports with a ticket that is not that of the running effect are
late and change nothing.

Between two operations the stage is idle, or waits for the running effect, or waits for the
player.

## Main definitions

* `Cutscene.PlayError` — what an operation can fail with.
* `Cutscene.Stage` — a repertoire, the settings, the stream of identifiers and the state.
* `Cutscene.Stage.execute` — what a step does at once, and what it leaves to wait for.
* `Cutscene.Stage.perform` — runs steps up to the first that has to be waited for.
* `Cutscene.Stage.trigger`, `Cutscene.Stage.proceed`, `Cutscene.Stage.confirm`,
  `Cutscene.Stage.restart` — what a player can do.
* `Cutscene.Stage.reveal`, `Cutscene.Stage.resolve` — what an effect reports.
-/

namespace Cutscene

/-- What can keep scenes from being played. -/
inductive PlayError where
  /-- There is no scene of that name. -/
  | sceneNotFound (name : String)
  /-- The cursor has run over the end of a scene. -/
  | cursorOverrun (scene : String) (index : Nat)
  /-- The engine has stopped. -/
  | unavailable
  /-- Any other error about scenes. -/
  | sceneError (e : SceneError)
  /-- A pause is out of range once it has been scaled. -/
  | pauseTooLong
  deriving DecidableEq, Repr

namespace PlayError

/-- The wording of an error. -/
def message : PlayError → String
  | sceneNotFound name => "scene not found: \"" ++ name ++ "\""
  | cursorOverrun name index =>
    "scene \"" ++ name ++ "\" has no step at index " ++ toString index
  | unavailable => "playback engine is not running"
  | sceneError e => e.message
  | pauseTooLong => "pause is too long"

/-- An error about scenes as one about playing them. -/
def ofSceneError : SceneError → PlayError
  | .notFound name => sceneNotFound name
  | e => sceneError e

end PlayError

/-- What an operation gives: the effect it started, if there is one to wait for. -/
abbrev Outcome := Except PlayError (Option Pending)

/-- Everything that playing scenes needs. -/
structure Stage where
  /-- The scenes. -/
  repertoire : Repertoire
  /-- How they are played. -/
  settings : Settings
  /-- Where the identifiers of bubbles come from. -/
  ids : Random.Source
  /-- The playback state. -/
  state : State

namespace Stage

/-- An idle stage. Without a seed in the settings, nothing is promised about the identifiers, and
they come from the seed zero. -/
def ofRepertoire (repertoire : Repertoire) (settings : Settings) : Stage :=
  ⟨repertoire, settings, .ofSeed (settings.seed.getD 0), .idle⟩

/-! ## Steps -/

/-- Does what a step does at once, and gives what is left to wait for. A step that completes the
scene ends it before the rest that follows, so that the scene counts as over meanwhile. A pause
that is out of range is refused. -/
def execute (s : Stage) (step : Step) : Except PlayError (Stage × Option Effect) :=
  match step.action with
  | .say line =>
    let (id, ids) := Random.identifier s.ids
    let bubble := Bubble.start id line
    let state := { s.state with bubbles := s.state.bubbles ++ [bubble] }
    if bubble.length = 0 then .ok ({ s with ids, state }, none)
    else .ok ({ s with ids, state := { state with typing := true } }, some (.typing bubble.length))
  | .pause millis =>
    match s.settings.scaledPause? millis with
    | some length => .ok (s, some (.pause length))
    | none => .error .pauseTooLong
  | .assign values =>
    .ok ({ s with state := { s.state with values := s.state.values.overlay values } }, none)
  | .reset => .ok ({ s with state := s.state.clearBubbles }, some (.settle s.settings.settleDelay))
  | .complete =>
    .ok ({ s with state := s.state.endSession.clearBubbles },
      some (.settle s.settings.settleDelay))

/-- Runs out of steps: whatever is played is taken away. -/
def overrun (s : Stage) : Stage × Outcome :=
  match s.state.session with
  | some session =>
    ({ s with state := s.state.clearPlayback },
      .error (.cursorOverrun session.scene.name session.cursor))
  | none => (s, .ok none)

/-- Performs the steps from the cursor on, given as a list. A step that has an effect starts it
and is waited for; one without is waited at, unless playback goes on by itself. -/
def perform (s : Stage) : List Step → Stage × Outcome
  | [] => s.overrun
  | step :: rest =>
    match s.execute step with
    | .error e => (s, .error e)
    | .ok (s, some effect) =>
      let (state, ticket) := s.state.startEffect step.autoAdvance effect.isTyping
      ({ s with state }, .ok (some ⟨ticket, effect⟩))
    | .ok (s, none) =>
      if step.autoAdvance && s.state.isActive then
        perform { s with state := s.state.leaveStep } rest
      else (s, .ok none)

/-- Performs the scene from the cursor on. -/
def performFromCursor (s : Stage) : Stage × Outcome :=
  match s.state.session with
  | some session => s.perform (session.scene.steps.drop session.cursor)
  | none => (s, .ok none)

/-! ## Operations -/

/-- Starts a scene, unless one is played already. The rest that the scene before may still be
taking is dropped. -/
def trigger (s : Stage) (name : String) : Stage × Outcome :=
  if s.state.isActive then (s, .ok none)
  else
    match s.repertoire.find name with
    | .error e => (s, .error (.ofSceneError e))
    | .ok scene =>
      performFromCursor { s with state := s.state.cancelEffect.startSession scene }

/-- Leaves the current step and performs the next. The effect of the step is dropped. -/
def proceed (s : Stage) : Stage × Outcome :=
  if s.state.isActive then performFromCursor { s with state := s.state.leaveStep }
  else (s, .ok none)

/-- Proceeds if the current step allows it. -/
def confirm (s : Stage) : Stage × Outcome :=
  match s.state.step? with
  | some step => if s.state.mayLeave step then s.proceed else (s, .ok none)
  | none => (s, .ok none)

/-- Starts the scene that is played over again. -/
def restart (s : Stage) : Stage × Outcome :=
  match s.state.session with
  | some session => trigger { s with state := s.state.clearPlayback } session.scene.name
  | none => (s, .ok none)

/-- Shows one more character of the line that is typed, and says whether there was one. -/
def reveal (s : Stage) (ticket : Ticket) : Stage × Bool :=
  if s.state.isCurrent ticket && s.state.typing then
    match s.state.bubbles.getLast? with
    | some bubble =>
      let (shown, bubble) := bubble.revealNext
      let bubbles := modifyLast (fun _ => bubble) s.state.bubbles
      ({ s with state := { s.state with bubbles } }, shown)
    | none => (s, false)
  else (s, false)

/-- Ends the running effect, and goes on if its step asks for it. -/
def resolve (s : Stage) (ticket : Ticket) : Stage × Outcome :=
  match s.state.finishEffect? ticket with
  | none => (s, .ok none)
  | some (effect, state) =>
    let s := { s with state := if effect.typing then state.completeTyping else state }
    if effect.autoAdvance then s.proceed else (s, .ok none)

end Stage

end Cutscene
