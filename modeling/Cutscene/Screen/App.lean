import Cutscene.Screen.Controls
import Cutscene.Screen.Monitor
import Cutscene.Screen.Overlay

set_option relaxedAutoImplicit false
set_option autoImplicit false

/-!
# The terminal application

The application draws the latest snapshot it has been shown, and turns keys and clicks into inputs
for the performance. Clicks are understood by what was drawn last.

## Main definitions

* `Cutscene.Screen.App` — the performance, what is shown of it, and what was drawn.
* `Cutscene.Screen.App.keyGesture?`, `Cutscene.Screen.App.clickGesture?`,
  `Cutscene.Screen.App.handle` — what the player does.
* `Cutscene.Screen.App.draw` — one frame.
-/

namespace Cutscene.Screen

/-- Where things were drawn last. -/
structure Drawn where
  /-- The page. -/
  page : PageLayout
  /-- The bubbles. -/
  bubbles : List (Option Rect)

/-- The terminal application. -/
structure App where
  /-- The remote control of the performance. -/
  remote : Remote
  /-- The snapshot that is shown. -/
  shown : Snapshot
  /-- The frame of the animation. -/
  tick : Nat
  /-- Whether the player wants to leave. -/
  hasQuit : Bool
  /-- The last error. -/
  status : Option PlayError
  /-- What was drawn last. -/
  drawn : Option Drawn

namespace App

/-- An application that shows a performance. -/
def ofPerformance (p : Performance) : App :=
  ⟨.ofPerformance p, p.snapshot, 0, false, none, none⟩

/-- What a key asks for. -/
def keyGesture? (a : App) (k : KeyPress) : Option Gesture := keyGesture k a.shown

/-- What a click asks for; nothing before a frame has been drawn. -/
def clickGesture? (a : App) (x y : Nat) : Option Gesture :=
  a.drawn.bind fun d => clickGesture x y a.shown d.bubbles d.page

/-- Shows a snapshot. -/
def render (a : App) (s : Snapshot) : App := { a with shown := s }

/-- Shows what the performance has published. -/
def sync (a : App) : App := a.render a.remote.snapshot

/-- Carries a gesture out. An error is kept until the next input. -/
def handle (a : App) : Gesture → App
  | .quit => { a with hasQuit := true }
  | .input i =>
    let (remote, result) := a.remote.dispatch i
    let status := match result with
      | .ok () => none
      | .error e => some e
    { a with remote, status }.sync

/-- Moves the animation on. -/
def onTick (a : App) : App := { a with tick := a.tick + 1 }

/-- The keys, as the last row names them. -/
def hint : String := "Enter:confirm  Space:proceed  w/e/c:sections  r:restart  q:quit"

/-- The last row: the keys, and behind them the last error or what is played. -/
def statusLine (a : App) : Paragraph where
  lines :=
    let state : Span := match a.status, a.shown.scene with
      | some e, _ => ⟨" " ++ e.message ++ " ", { fore := some .red }⟩
      | none, some scene =>
        ⟨" " ++ scene ++ " #" ++ toString (a.shown.stepIndex.getD 0) ++ " ", {}⟩
      | none, none => ⟨" idle ", {}⟩
    [[⟨hint, {}⟩, ⟨"  ", {}⟩, state]]
  style := { fore := some .black, back := some .white }

/-- Draws a frame on a blank canvas: the monitor and the bubbles over it on all rows but the last,
and the status on the last. -/
def draw (font : Font) (a : App) (width height : Nat) : Option (Canvas × App) := do
  let area := Rect.clipped 0 0 width height
  let content := Rect.clipped 0 0 area.width (area.height - 1)
  let last := Rect.clipped 0 content.height area.width (area.height - content.height)
  let layout := MonitorLayout.ofArea content
  let c := drawMonitor font a.shown.display a.shown.interactionDisabled a.tick content
    (.blank area)
  let c ← drawOverlay font a.shown.bubblesRaised a.shown.bubbles layout.bezel c
  let places ← bubbleAreas? layout.bezel a.shown.bubbles
  return (a.statusLine.draw font last c,
    { a with drawn := some ⟨.ofScreen layout.screen, places⟩ })

end App

end Cutscene.Screen
