import Cutscene.Proofs.Screen.Coordinates

set_option relaxedAutoImplicit false
set_option autoImplicit false

/-!
# Which operations of the layout stay in the range

Three times the width of an area is a coordinate if the area has at most 21845 columns. In a wider
area the product is none, and there is neither a width for bubbles nor a layout. The product is the
only operation that can leave the range.

## Main definitions

* `Cutscene.Screen.Ranges` — which operations of a layout stay in the range, and what becomes of the
  layout if one does not.

## Main results

* `Cutscene.Screen.bubbleAreas_ranges` — the ranges of the operations, for every area.

## Design

The width is the only thing that is multiplied, and it is computed first. So the layout is split
behind it: whatever the width has come to, if it leaves two columns of the area free everything else
is in range (`layout?_eq_some`).
-/

namespace Cutscene.Screen

/-- Which operations of the layout of bubbles stay in the range, and what becomes of the layout if
one does not. -/
structure Ranges (area : Rect) (bubbles : List BubbleView) : Prop where
  /-- Three times the width is the product of coordinates up to 21845 columns. -/
  product : times? area.width 3 = if area.width ≤ 21845 then some (3 * area.width) else none
  /-- So up to 21845 columns bubbles have three fifths of them, but not less than 24 and not more
  than leave two free. In wider areas they have no width. -/
  width : bubbleWidth? area.width =
    if area.width ≤ 21845 then some (min (max (3 * area.width / 5) 24) (area.width - 2)) else none
  /-- Behind the width every operation is in range, for any columns that leave two free. -/
  others : ∀ width ≤ area.width - 2,
    layout? area width bubbles = some (layout area width bubbles)
  /-- So up to 21845 columns no operation leaves the range, and the layout is that in whole
  numbers. In wider areas there is none. -/
  result : bubbleAreas? area bubbles =
    if area.width ≤ 21845 then some (layout area (columns area) bubbles) else none
  /-- Nothing can be drawn then. -/
  drawn : ∀ (font : Font) (raised : Bool) (c : Canvas),
    drawOverlay font raised bubbles area c = none ↔ 21845 < area.width

/-- **Which operations of the layout stay in the range**: all of them up to 21845 columns, and in
wider areas all but the product of the width, so that there is no layout.

**Proof sketch.** The product is a coordinate up to 21845 columns (`times?_three`), and so far there
is a width (`bubbleWidth?_eq_ite`). It leaves two columns free, and behind such a width nothing
leaves the range (`layout?_eq_some`). -/
theorem bubbleAreas_ranges (area : Rect) (bubbles : List BubbleView) : Ranges area bubbles where
  product := times?_three area.width
  width := bubbleWidth?_eq_ite area
  others := fun _ hwidth => layout?_eq_some hwidth bubbles
  result := bubbleAreas?_eq_ite area bubbles
  drawn := fun font raised c => by
    rw [drawOverlay, bubbleAreas?_eq_ite]
    split
    next h => simpa using h
    next h => simpa using h

/-- Three times 30000 columns are no coordinate. -/
example : bubbleWidth? 30000 = none ∧ columns (.clipped 0 0 30000 10) = 18000 := by decide

end Cutscene.Screen
