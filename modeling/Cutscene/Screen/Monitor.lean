import Cutscene.Playback.Viewport
import Cutscene.Scene.Variables
import Cutscene.Screen.Frame
import Cutscene.Screen.Page

set_option relaxedAutoImplicit false
set_option autoImplicit false

/-!
# The monitor

The monitor is a bezel with a screen inside, as large as the area allows and in its middle. What
the screen shows is up to the display variables; while a scene is played it is dimmed.

## Main definitions

* `Cutscene.Screen.MonitorLayout` — the bezel and the screen.
* `Cutscene.Screen.drawMonitor` — draws the monitor.
-/

namespace Cutscene.Screen

/-- Where the monitor is. -/
structure MonitorLayout where
  /-- The outer frame. -/
  bezel : Rect
  /-- What is inside. -/
  screen : Rect
  deriving DecidableEq

/-- The largest monitor in an area, in its middle. -/
def MonitorLayout.ofArea (area : Rect) : MonitorLayout :=
  let (width, height) := Viewport.monitorSize ⟨area.width, area.height⟩
  let bezel := .clipped (area.x + (area.width - width) / 2) (area.y + (area.height - height) / 2)
    width height
  ⟨bezel, bezel.inner 2 1⟩

/-- The frame of the monitor. -/
def bezelFrame : Frame where
  border := .thick
  style := { fore := some .gray }
  bottom := some ⟨" crt ", {}, .middle, .middle⟩

/-- Draws what is on the screen of a monitor that is powered. -/
def drawScreen (font : Font) (display : Display) (paused : Bool) (tick : Nat) (screen : Rect)
    (c : Canvas) : Canvas :=
  let c := if display.showsLoading then drawLoadingBar font tick screen c else c
  let c := if display.showsContent then drawPage font (!paused) screen c else c
  if paused then c.setStyle screen Style.none.dim else c

/-- Draws the monitor in an area. -/
def drawMonitor (font : Font) (display : Display) (paused : Bool) (tick : Nat) (area : Rect)
    (c : Canvas) : Canvas :=
  let layout := MonitorLayout.ofArea area
  let c := bezelFrame.draw font layout.bezel c
  if display.monitorOn then
    drawScreen font display paused tick layout.screen
      (c.setStyle layout.screen { fore := some .green, back := some .black })
  else c.setStyle layout.screen { back := some .black }

end Cutscene.Screen
