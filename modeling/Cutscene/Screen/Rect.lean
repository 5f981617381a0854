set_option relaxedAutoImplicit false
set_option autoImplicit false

/-!
# Rectangles

The screen is a grid of cells whose coordinates have sixteen bits. A rectangle of cells never
reaches past the last coordinate.

## Main definitions

* `Cutscene.Screen.plus?`, `Cutscene.Screen.minus?`, `Cutscene.Screen.times?` — the operations on
  coordinates, where they have a result.
* `Cutscene.Screen.Rect` — rectangles, with their bounds.
* `Cutscene.Screen.Rect.clipped` — the rectangle of a corner and a size, as far as it fits.
* `Cutscene.Screen.Rect.inner`, `Cutscene.Screen.Rect.centered` — rectangles inside a rectangle.
-/

namespace Cutscene.Screen

/-- The last coordinate. -/
def lastCoordinate : Nat := 65535

/-- The sum of two coordinates, if it is one. -/
def plus? (a b : Nat) : Option Nat := if a + b ≤ lastCoordinate then some (a + b) else none

/-- The difference of two coordinates, if it is one. -/
def minus? (a b : Nat) : Option Nat := if b ≤ a then some (a - b) else none

/-- The product of two coordinates, if it is one. -/
def times? (a b : Nat) : Option Nat := if a * b ≤ lastCoordinate then some (a * b) else none

/-- A rectangle of cells. -/
structure Rect where
  /-- The leftmost column. -/
  x : Nat
  /-- The topmost row. -/
  y : Nat
  /-- The number of columns. -/
  width : Nat
  /-- The number of rows. -/
  height : Nat
  /-- The columns have coordinates. -/
  right_le : x + width ≤ lastCoordinate
  /-- The rows have coordinates. -/
  bottom_le : y + height ≤ lastCoordinate
  deriving DecidableEq

namespace Rect

/-- The rectangle of a corner and a size. What does not fit is cut off. -/
def clipped (x y width height : Nat) : Rect where
  x := min x lastCoordinate
  y := min y lastCoordinate
  width := min width (lastCoordinate - x)
  height := min height (lastCoordinate - y)
  right_le := by omega
  bottom_le := by omega

/-- No cells, in the corner of the screen. -/
def zero : Rect := clipped 0 0 0 0

instance : Inhabited Rect := ⟨zero⟩

/-- The column behind the last. -/
def right (r : Rect) : Nat := r.x + r.width

/-- The row below the last. -/
def bottom (r : Rect) : Nat := r.y + r.height

/-- Whether there are no cells. -/
def isEmpty (r : Rect) : Bool := r.width == 0 || r.height == 0

/-- Whether a cell lies in a rectangle. -/
def contains (r : Rect) (x y : Nat) : Bool := r.x ≤ x && x < r.right && r.y ≤ y && y < r.bottom

/-- What is left inside margins; nothing where there is no room for them. -/
def inner (r : Rect) (horizontal vertical : Nat) : Rect :=
  if r.width < 2 * horizontal ∨ r.height < 2 * vertical then zero
  else
    clipped (r.x + horizontal) (r.y + vertical) (r.width - 2 * horizontal) (r.height - 2 * vertical)

/-- A rectangle of a size in the middle of another, cut to fit. -/
def centered (r : Rect) (width height : Nat) : Rect :=
  let width := min width r.width
  let height := min height r.height
  clipped (r.x + (r.width - width) / 2) (r.y + (r.height - height) / 2) width height

/-- The cells of both of two rectangles. -/
def intersection (a b : Rect) : Rect :=
  let x := max a.x b.x
  let y := max a.y b.y
  clipped x y (min a.right b.right - x) (min a.bottom b.bottom - y)

/-- The row of a rectangle at some distance below its top. -/
def row (r : Rect) (offset : Nat) : Rect :=
  clipped r.x (r.y + offset) r.width (min 1 (r.height - offset))

/-- A corner and a size that fit are not cut. -/
theorem clipped_of_le {x y width height : Nat} (hx : x + width ≤ lastCoordinate)
    (hy : y + height ≤ lastCoordinate) :
    clipped x y width height = ⟨x, y, width, height, hx, hy⟩ := by
  simp only [clipped, mk.injEq]
  omega

end Rect

end Cutscene.Screen
