import Cutscene.Playback.State

set_option relaxedAutoImplicit false
set_option autoImplicit false

/-!
# Snapshots

A snapshot is what a renderer gets to see of the playback state: everything it needs to draw one
frame, and nothing it could change. Snapshots carry a version, so that a renderer knows which of
two is newer.

## Main definitions

* `Cutscene.BubbleView` — a bubble as it is drawn.
* `Cutscene.Snapshot` — everything that is drawn.
* `Cutscene.Snapshot.ofState` — the snapshot of a state.
* `Cutscene.Snapshot.canProceed` — whether the mark for going on does anything.
-/

namespace Cutscene

/-- A bubble as it is drawn. -/
structure BubbleView where
  /-- What it is known by. -/
  id : String
  /-- Who speaks. -/
  speaker : String
  /-- The style key of the speaker. -/
  slug : String
  /-- The text shown so far. -/
  text : String
  /-- The number of characters of the whole text. -/
  length : Nat
  /-- The side of the bubble. -/
  side : Side
  /-- The address of the mark for going on. -/
  proceedAddress : String
  /-- Whether the mark is shown. -/
  proceedVisible : Bool
  /-- Whether the mark does anything: not while a line is typed. -/
  proceedEnabled : Bool
  deriving DecidableEq, Repr

namespace BubbleView

/-- The view of a bubble. -/
def ofBubble (typing : Bool) (b : Bubble) : BubbleView where
  id := b.id
  speaker := b.line.speaker
  slug := Cutscene.slug b.line.speaker
  text := b.visibleText
  length := b.length
  side := b.line.side
  proceedAddress := Bubble.proceedAddress b.id
  proceedVisible := b.proceedVisible
  proceedEnabled := !typing

/-- Whether the whole text is shown. -/
def isComplete (v : BubbleView) : Bool := v.length ≤ v.text.toList.length

/-- A view in JSON. -/
def toJson (v : BubbleView) : Json :=
  .record [("id", .text v.id), ("speaker", .text v.speaker), ("slug", .text v.slug),
    ("text", .text v.text), ("len", .count v.length), ("alignment", .text v.side.name),
    ("proceed_id", .text v.proceedAddress), ("proceed_visible", .flag v.proceedVisible),
    ("proceed_enabled", .flag v.proceedEnabled)]

end BubbleView

/-- What a renderer needs to draw a frame. -/
structure Snapshot where
  /-- The bubbles, oldest first. -/
  bubbles : List BubbleView
  /-- Whether a line is being typed. -/
  typing : Bool
  /-- Whether a scene is played. -/
  active : Bool
  /-- Whether only the player can move things on. -/
  waiting : Bool
  /-- The name of the scene. -/
  scene : Option String
  /-- The index of the current step. -/
  stepIndex : Option Nat
  /-- The kind of the current step. -/
  kind : Option Kind
  /-- The display variables. -/
  values : Variables
  /-- The number of changes published so far. -/
  version : Nat
  deriving BEq

namespace Snapshot

/-- The snapshot of a state. -/
def ofState (s : State) (version : Nat) : Snapshot where
  bubbles := s.bubbles.map (.ofBubble s.typing)
  typing := s.typing
  active := s.isActive
  waiting := s.isWaiting
  scene := s.session.map (·.scene.name)
  stepIndex := s.session.map (·.cursor)
  kind := s.step?.map Step.kind
  values := s.values
  version := version

/-- Nothing on screen. -/
def blank : Snapshot := ofState .idle 0

instance : Inhabited Snapshot := ⟨blank⟩

/-- Whether scenes cannot be started, because one is played. -/
def interactionDisabled (s : Snapshot) : Bool := s.active

/-- Whether the bubbles come before everything else: during a line. -/
def bubblesRaised (s : Snapshot) : Bool := s.kind == some .say

/-- What the variables say that renderers know. -/
def display (s : Snapshot) : Display := .ofVariables s.values

/-- The newest bubble. -/
def lastBubble? (s : Snapshot) : Option BubbleView := s.bubbles.getLast?

/-- Whether the mark of the newest bubble does anything. -/
def canProceed (s : Snapshot) : Bool :=
  s.active && s.lastBubble?.any fun b => b.proceedVisible && b.proceedEnabled

/-- A snapshot in JSON. -/
def toJson (s : Snapshot) : Json :=
  .record [("bubbles", .list (s.bubbles.map BubbleView.toJson)),
    ("typing_in_progress", .flag s.typing), ("scene_active", .flag s.active),
    ("waiting", .flag s.waiting), ("scene", .optional .text s.scene),
    ("step_index", .optional .count s.stepIndex),
    ("current_step", .optional (fun kind => .text kind.tag) s.kind),
    ("variables", s.values.toJson), ("version", .count s.version)]

end Snapshot

end Cutscene
