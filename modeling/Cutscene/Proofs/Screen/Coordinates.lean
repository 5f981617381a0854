import Cutscene.Proofs.Screen.Rectangles
import Cutscene.Screen.Overlay
import Mathlib.Logic.Basic

set_option relaxedAutoImplicit false
set_option autoImplicit false

/-!
# The layout of bubbles in coordinates of sixteen bits

Coordinates have sixteen bits, and a sum, a difference or a product of two need not be one: there is
a layout only if none of the operations leaves the range. Here the layout is compared with one in
whole numbers, where every operation has a result.

## Main definitions

* `Cutscene.Screen.columns`, `Cutscene.Screen.rows` — the size of a bubble in whole numbers.
* `Cutscene.Screen.bubbleArea`, `Cutscene.Screen.placeUpward` — where bubbles are, in whole numbers.
* `Cutscene.Screen.layout`, `Cutscene.Screen.layout?` — what comes behind the width, in numbers
  and in coordinates.

## Main results

* `Cutscene.Screen.bubbleWidth?_eq_ite` — the width of bubbles exists up to 21845 columns.
* `Cutscene.Screen.layout?_eq_some` — behind the width, every operation has a result.
* `Cutscene.Screen.bubbleAreas?_eq_ite` — up to 21845 columns the layout is that in whole numbers,
  and in a wider area there is none.

## Design

What is cut off on purpose needs no check: the width less two columns and the bottom less a row, at
zero, and sums of rows, at the last coordinate. A bubble that has so many rows has no room above any
row, whether they are counted to the end or not. So the heights differ only where nothing is placed,
and everything else is the same computation.
-/

namespace Cutscene.Screen

variable {area : Rect} {width bottom : ℕ}

/-! ### The layout in whole numbers -/

/-- The columns of bubbles in an area: three fifths of it but not less than 24, and a column is
left free on both sides. -/
def columns (area : Rect) : ℕ := min (max (3 * area.width / 5) 24) (area.width - 2)

/-- The rows of a bubble that has so many columns: one for each line of its text, which is without
the border and the blanks on both sides, and two for the border. -/
def rows (width : ℕ) (b : BubbleView) : ℕ := (wrap (width - 4) b.text).length + 2

/-- The first column of a bubble. -/
def bubbleLeft (area : Rect) (width : ℕ) : Side → ℕ
  | .left => area.x + 1
  | .right => area.right - width - 1

/-- The rectangle of a bubble whose border ends above a row. -/
def bubbleArea (area : Rect) (width bottom : ℕ) (b : BubbleView) : Rect :=
  .clipped (bubbleLeft area width b.side) (bottom - rows width b) width (rows width b)

/-- Places bubbles upward from a row, the newest first, until one does not fit. -/
def placeUpward (area : Rect) (width bottom : ℕ) : List BubbleView → List (Option Rect)
  | [] => []
  | b :: older =>
    if bottom < area.y + rows width b then none :: older.map fun _ => none
    else
      some (bubbleArea area width bottom b) :: placeUpward area width (bottom - rows width b) older

/-- Where bubbles of a width are. -/
def layout (area : Rect) (width : ℕ) (bubbles : List BubbleView) : List (Option Rect) :=
  if width < minBubbleWidth then bubbles.map fun _ => none
  else (placeUpward area width (area.bottom - 1) bubbles.reverse).reverse

/-- Where bubbles of a width are, in coordinates. -/
def layout? (area : Rect) (width : ℕ) (bubbles : List BubbleView) :
    Option (List (Option Rect)) := do
  if width < minBubbleWidth then return bubbles.map fun _ => none
  let places ← placeUpward? area width (area.bottom - 1) bubbles.reverse
  return places.reverse

lemma bubbleAreas?_eq_bind (area : Rect) (bubbles : List BubbleView) :
    bubbleAreas? area bubbles =
      (bubbleWidth? area.width).bind fun width => layout? area width bubbles := rfl

/-! ### The width -/

/-- Three times a width is a coordinate up to 21845 columns. -/
lemma times?_three (width : ℕ) :
    times? width 3 = if width ≤ 21845 then some (3 * width) else none := by
  rw [times?, Nat.mul_comm]
  exact if_congr (by unfold lastCoordinate; omega) rfl rfl

/-- **The width of bubbles exists up to 21845 columns.** -/
lemma bubbleWidth?_eq_ite (area : Rect) :
    bubbleWidth? area.width = if area.width ≤ 21845 then some (columns area) else none := by
  rw [bubbleWidth?, times?_three]
  split <;> rfl

/-- The width of bubbles leaves a column free on both sides. -/
lemma columns_le (area : Rect) : columns area ≤ area.width - 2 := Nat.min_le_right ..

/-! ### No operation leaves the range -/

/-- A bubble that leaves a column free on both sides begins and ends in columns of the area. -/
lemma bubbleLeft_bounds (h : width + 2 ≤ area.width) (side : Side) :
    area.x + 1 ≤ bubbleLeft area width side ∧
      bubbleLeft area width side + width + 1 ≤ area.right := by
  cases side <;> simp only [bubbleLeft, Rect.right] <;> omega

lemma bubbleLeft?_eq_some (h : width + 2 ≤ area.width) (side : Side) :
    bubbleLeft? area width side = some (bubbleLeft area width side) := by
  have hright : area.right ≤ lastCoordinate := area.right_le
  have hbounds := bubbleLeft_bounds h side
  cases side with
  | left => exact plus?_of_le (by simp only [bubbleLeft] at hbounds; omega)
  | right =>
    have hwidth : width ≤ area.right := by omega
    have hone : 1 ≤ area.right - width := by
      simp only [bubbleLeft] at hbounds
      omega
    simp only [bubbleLeft?, minus?_of_le hwidth, minus?_of_le hone, bubbleLeft,
      Option.bind_eq_bind, Option.bind_some]

/-- Where there is room above a row for a bubble, its rows are counted to the end, and where there
is none, counting them further makes none. -/
lemma lt_bubbleHeight_iff (y : ℕ) (b : BubbleView) (h : bottom < lastCoordinate) :
    bottom < min (y + bubbleHeight width b.text) lastCoordinate ↔ bottom < y + rows width b := by
  unfold bubbleHeight rows textWidth
  omega

lemma bubbleHeight_eq (b : BubbleView) (h : rows width b ≤ lastCoordinate) :
    bubbleHeight width b.text = rows width b := by
  unfold bubbleHeight rows textWidth at *
  omega

/-- Placing bubbles upward from a row takes no operation out of the range. -/
lemma placeUpward?_eq_some (hwidth : width + 2 ≤ area.width) (hbottom : bottom < lastCoordinate)
    (bubbles : List BubbleView) :
    placeUpward? area width bottom bubbles = some (placeUpward area width bottom bubbles) := by
  induction bubbles generalizing bottom with
  | nil => rfl
  | cons b older ih =>
    rw [placeUpward?, placeUpward]
    by_cases hfit : bottom < area.y + rows width b
    · rw [if_pos ((lt_bubbleHeight_iff area.y b hbottom).2 hfit), if_pos hfit]
    · have hheight := bubbleHeight_eq b (show rows width b ≤ lastCoordinate by omega)
      rw [if_neg (mt (lt_bubbleHeight_iff area.y b hbottom).1 hfit), if_neg hfit, hheight]
      simp only [minus?_of_le (show rows width b ≤ bottom by omega), bubbleLeft?_eq_some hwidth,
        ih (show bottom - rows width b < _ by omega), bubbleArea, Option.pure_def,
        Option.bind_eq_bind, Option.bind_some]

/-- Behind the width, no operation leaves the range, whatever the columns of bubbles are that leave
a column free on both sides. -/
lemma layout?_eq_some (hwidth : width ≤ area.width - 2) (bubbles : List BubbleView) :
    layout? area width bubbles = some (layout area width bubbles) := by
  unfold layout? layout
  by_cases hnarrow : width < minBubbleWidth
  · rw [if_pos hnarrow, if_pos hnarrow, Option.pure_def]
  · have hfree : width + 2 ≤ area.width := by
      unfold minBubbleWidth at hnarrow
      omega
    have hbottom : area.bottom - 1 < lastCoordinate := by
      have hle := area.bottom_le
      unfold Rect.bottom lastCoordinate at *
      omega
    rw [if_neg hnarrow, if_neg hnarrow, placeUpward?_eq_some hfree hbottom, Option.bind_eq_bind,
      Option.bind_some, Option.pure_def]

/-- **Up to 21845 columns no operation leaves the range**, and bubbles are where they are in whole
numbers. In a wider area one does. -/
theorem bubbleAreas?_eq_ite (area : Rect) (bubbles : List BubbleView) :
    bubbleAreas? area bubbles =
      if area.width ≤ 21845 then some (layout area (columns area) bubbles) else none := by
  rw [bubbleAreas?_eq_bind, bubbleWidth?_eq_ite]
  split
  · rw [Option.bind_some, layout?_eq_some (columns_le area)]
  · rfl

lemma bubbleAreas?_eq_some (h : area.width ≤ 21845) (bubbles : List BubbleView) :
    bubbleAreas? area bubbles = some (layout area (columns area) bubbles) := by
  rw [bubbleAreas?_eq_ite, if_pos h]

end Cutscene.Screen
