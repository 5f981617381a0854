set_option relaxedAutoImplicit false
set_option autoImplicit false

/-!
# Viewports

The monitor is four units wide and three high, on screens whose cells are twice as high as wide:
its height in cells is three eighths of its width. A viewport shows the largest monitor that fits.

## Main definitions

* `Cutscene.monitorHeight` — the height of a monitor of a width.
* `Cutscene.Viewport.monitorSize` — the largest monitor in a viewport.
-/

namespace Cutscene

/-- The height of a monitor: three eighths of its width, a half rounded up. -/
def monitorHeight (width : Nat) : Nat := (3 * width + 4) / 8

/-- The area that a renderer draws into, in cells. -/
structure Viewport where
  /-- The width. -/
  width : Nat
  /-- The height. -/
  height : Nat
  deriving DecidableEq, Repr

/-- The width and the height of the largest monitor in a viewport. -/
def Viewport.monitorSize (v : Viewport) : Nat × Nat :=
  if monitorHeight v.width ≤ v.height then (v.width, monitorHeight v.width)
  else
    let width := min (8 * v.height / 3) v.width
    (width, min (monitorHeight width) v.height)

end Cutscene
