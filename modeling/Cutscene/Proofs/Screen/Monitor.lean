import Cutscene.Proofs.Decimal.Fractions
import Cutscene.Proofs.Playback.Viewport
import Cutscene.Proofs.Screen.Rectangles
import Cutscene.Screen.Monitor

set_option relaxedAutoImplicit false
set_option autoImplicit false

/-!
# The monitor in its area

The size of a monitor and its place in an area are told in whole numbers. Here the size is computed
with floats, and the place with every operation on coordinates checked. Neither makes a difference,
for any area there can be.

## Main definitions

* `Cutscene.floatHeight?`, `Cutscene.Viewport.floatSize?` — the size of the monitor, with floats.
* `Cutscene.Screen.MonitorLayout.ofArea?` — the layout of the monitor, with floats and with every
  operation on coordinates checked.
* `Cutscene.Screen.MonitorLayout.IsFramed` — what holds of a monitor in an area.

## Main results

* `Cutscene.floatHeight?_eq_some`, `Cutscene.Viewport.floatSize?_eq_some` — the size with floats is
  the one in whole numbers.
* `Cutscene.Screen.MonitorLayout.isFramed_ofArea` — all of it holds in every area.

## Design

The height is three eighths of the width, which is a float, so what is rounded is exact. The width
to which a height belongs is a quotient by three eighths, and is rounded to a float before it is
rounded to a whole number, which comes to the same as the dividend is small
(`Cutscene.Decimal.IsFraction.floor_div`). Zero is not a normal number and is computed.
-/

namespace Cutscene

open Decimal
open Screen (lastCoordinate)

/-! ### The size of the monitor with floats -/

/-- The height of a monitor by its width, in units. -/
def monitorAspect : Float := 0.75

/-- The width of a cell by its height, in units. -/
def cellAspect : Float := 0.5

/-- The coordinate that a float is rounded to, which is the last for those that are too large.
There is none if the float is negative, infinite or not a number. -/
def coordinate? (whole : Binary → ℕ) (x : Float) : Option ℕ :=
  (Binary.ofFloat? x).bind fun v =>
    if v.negative then none else some (min (whole v) lastCoordinate)

/-- The height of a monitor of a width, with floats: the whole number nearest to it. -/
def floatHeight? (width : ℕ) : Option ℕ :=
  coordinate? Binary.nearest ((UInt16.ofNat width).toFloat * monitorAspect * cellAspect)

/-- The width to which a height belongs, with floats: the whole number below it. -/
def floatWidth? (height : ℕ) : Option ℕ :=
  coordinate? (·.floorAt 0) ((UInt16.ofNat height).toFloat / (monitorAspect * cellAspect))

/-- The width and the height of the monitor in a viewport, with floats. -/
def Viewport.floatSize? (v : Viewport) : Option (ℕ × ℕ) := do
  let height ← floatHeight? v.width
  if height ≤ v.height then return (v.width, height)
  let width ← floatWidth? v.height
  let width := min width v.width
  let height ← floatHeight? width
  return (width, min height v.height)

lemma coordinate?_eq_some {whole : Binary → ℕ} {x : Float} {n : ℕ}
    (h : ∃ v, Binary.ofFloat? x = some v ∧ v.negative = false ∧ whole v = n) :
    coordinate? whole x = some (min n lastCoordinate) := by
  obtain ⟨v, hv, hpositive, rfl⟩ := h
  simp [coordinate?, hv, hpositive]

lemma isFraction_monitorAspect : IsFraction monitorAspect 3 2 :=
  ⟨51, ⟨by decide, by decide, by decide, by decide⟩, by decide, rfl⟩

lemma isFraction_cellAspect : IsFraction cellAspect 1 1 :=
  ⟨52, ⟨by decide, by decide, by decide, by decide⟩, by decide, rfl⟩

lemma toNat_ofNat_of_le {n : ℕ} (h : n ≤ lastCoordinate) : (UInt16.ofNat n).toNat = n :=
  UInt16.toNat_ofNat_of_lt (Nat.lt_succ_of_le h)

lemma isFraction_of_le {n : ℕ} (hn : n ≠ 0) (h : n ≤ lastCoordinate) :
    IsFraction (UInt16.ofNat n).toFloat n 0 := by
  have hfraction := @isFraction_toFloat (UInt16.ofNat n)
  rw [toNat_ofNat_of_le h] at hfraction
  exact hfraction hn

/-- **The height with floats is the one in whole numbers**: three eighths of a width are a float. -/
lemma floatHeight?_eq_some {width : ℕ} (h : width ≤ lastCoordinate) :
    floatHeight? width = some (monitorHeight width) := by
  obtain rfl | hwidth := Nat.eq_zero_or_pos width
  · decide +kernel
  have hlast : lastCoordinate = 65535 := rfl
  have hexact := ((isFraction_of_le (by omega) h).mul isFraction_monitorAspect (by omega)
    (by decide)).mul isFraction_cellAspect (by omega) (by decide)
  rw [floatHeight?, coordinate?_eq_some hexact.nearest]
  congr 1
  unfold monitorHeight
  omega

/-- **The width with floats is the one in whole numbers**, up to the last coordinate. -/
lemma floatWidth?_eq_some {height : ℕ} (h : height ≤ lastCoordinate) :
    floatWidth? height = some (min (8 * height / 3) lastCoordinate) := by
  obtain rfl | hheight := Nat.eq_zero_or_pos height
  · decide +kernel
  have hlast : lastCoordinate = 65535 := rfl
  have hdivisor := isFraction_monitorAspect.mul isFraction_cellAspect (by decide) (by decide)
  have hfloor := (isFraction_of_le (by omega) h).floor_div hdivisor (by omega) (by decide)
  rw [floatWidth?, coordinate?_eq_some hfloor, Nat.mul_comm 8 height]
  rfl

/-- **The size with floats is the one in whole numbers.** -/
lemma Viewport.floatSize?_eq_some {v : Viewport} (hwidth : v.width ≤ lastCoordinate)
    (hheight : v.height ≤ lastCoordinate) : v.floatSize? = some v.monitorSize := by
  have hcapped : min (min (8 * v.height / 3) lastCoordinate) v.width =
      min (8 * v.height / 3) v.width := by omega
  have hnarrow : min (8 * v.height / 3) v.width ≤ lastCoordinate := by omega
  simp only [floatSize?, monitorSize, floatHeight?_eq_some hwidth, floatWidth?_eq_some hheight,
    hcapped, floatHeight?_eq_some hnarrow, Option.bind_eq_bind, Option.bind_some, Option.pure_def]
  split <;> rfl

/-! ### The place of the monitor -/

namespace Screen.MonitorLayout

/-- The layout of the monitor in an area, with floats and with every operation on coordinates
checked. -/
def ofArea? (area : Rect) : Option MonitorLayout := do
  let (width, height) ← Viewport.floatSize? ⟨area.width, area.height⟩
  let columns ← minus? area.width width
  let rows ← minus? area.height height
  let x ← plus? area.x (columns / 2)
  let y ← plus? area.y (rows / 2)
  let bezel := .clipped x y width height
  return ⟨bezel, bezel.inner 2 1⟩

/-- What holds of a monitor in an area. -/
structure IsFramed (area : Rect) (layout : MonitorLayout) : Prop where
  /-- It is computed with floats, and no operation on coordinates leaves their range. -/
  computed : ofArea? area = some layout
  /-- It is the monitor of the viewport, from which nothing is cut off. -/
  size_eq :
    (layout.bezel.width, layout.bezel.height) = Viewport.monitorSize ⟨area.width, area.height⟩
  /-- The height that belongs to its width fits, so nothing is cut off from it either. -/
  floatHeight?_eq : floatHeight? layout.bezel.width = some layout.bezel.height
  /-- The height is three eighths of the width, with a half rounded up. -/
  height_near : 8 * layout.bezel.height ≤ 3 * layout.bezel.width + 4 ∧
    3 * layout.bezel.width + 4 < 8 * (layout.bezel.height + 1)
  /-- Its columns are columns of the area. -/
  columns_inside : area.x ≤ layout.bezel.x ∧ layout.bezel.right ≤ area.right
  /-- Its rows are rows of the area. -/
  rows_inside : area.y ≤ layout.bezel.y ∧ layout.bezel.bottom ≤ area.bottom
  /-- There are as many columns to the right as to the left, or one more. -/
  columns_centered : layout.bezel.x - area.x ≤ area.right - layout.bezel.right ∧
    area.right - layout.bezel.right ≤ layout.bezel.x - area.x + 1
  /-- There are as many rows below as above, or one more. -/
  rows_centered : layout.bezel.y - area.y ≤ area.bottom - layout.bezel.bottom ∧
    area.bottom - layout.bezel.bottom ≤ layout.bezel.y - area.y + 1
  /-- The screen is the bezel without two columns and one row at each side, if there are as many. -/
  screen_of_room : 4 ≤ layout.bezel.width → 2 ≤ layout.bezel.height →
    layout.screen.x = layout.bezel.x + 2 ∧ layout.screen.y = layout.bezel.y + 1 ∧
      layout.screen.width = layout.bezel.width - 4 ∧
      layout.screen.height = layout.bezel.height - 2
  /-- Otherwise it is empty. -/
  screen_of_no_room : layout.bezel.width < 4 ∨ layout.bezel.height < 2 →
    layout.screen = .zero ∧ layout.screen.isEmpty = true

variable {area : Rect} {width height : ℕ}

/-- The bezel has the size of the monitor and stands in the middle. -/
lemma bezel_ofArea (h : Viewport.monitorSize ⟨area.width, area.height⟩ = (width, height))
    (hwidth : width ≤ area.width) (hheight : height ≤ area.height) :
    (ofArea area).bezel.x = area.x + (area.width - width) / 2 ∧
      (ofArea area).bezel.y = area.y + (area.height - height) / 2 ∧
      (ofArea area).bezel.width = width ∧ (ofArea area).bezel.height = height := by
  have hright := area.right_le
  have hbottom := area.bottom_le
  simp only [ofArea, h]
  rw [Rect.clipped_of_le (by omega) (by omega)]
  exact ⟨rfl, rfl, rfl, rfl⟩

/-- **No operation on coordinates leaves their range**, and the layout is the one without floats and
without checks. -/
lemma ofArea?_eq_some (area : Rect) : ofArea? area = some (ofArea area) := by
  have hsize := @Viewport.floatSize?_eq_some ⟨area.width, area.height⟩ area.width_le_last
    area.height_le_last
  obtain ⟨-, hwidth, hheight⟩ := Viewport.holds_monitorSize ⟨area.width, area.height⟩
  simp only at hwidth hheight
  have hright := area.right_le
  have hbottom := area.bottom_le
  simp only [ofArea?, ofArea, hsize, minus?_of_le hwidth, minus?_of_le hheight, Option.bind_eq_bind,
    Option.bind_some]
  rw [plus?_of_le (by omega), Option.bind_some, plus?_of_le (by omega)]
  rfl

/-- **A monitor stands in the middle of its area and is not cut off, whatever the area is**: its
height is three eighths of its width with a half rounded up, the margins differ by one at most, and
the screen is what its frame leaves. Computing this with floats and on coordinates of sixteen bits
makes no difference.

**Proof sketch.** The monitor of the viewport fits in it with the height that belongs to its width
(`Viewport.holds_monitorSize`), so the differences between the sizes are coordinates, and half of
one of them is the margin (`bezel_ofArea`). The float that the height is rounded from is exact, and
the one that the width is rounded from is off by so little that rounding it down does not see it
(`Viewport.floatSize?_eq_some`). -/
theorem isFramed_ofArea (area : Rect) : IsFramed area (ofArea area) := by
  obtain ⟨hnear, hwidth, hheight⟩ := Viewport.holds_monitorSize ⟨area.width, area.height⟩
  generalize hsize : Viewport.monitorSize ⟨area.width, area.height⟩ = size at hnear hwidth hheight
  obtain ⟨width, height⟩ := size
  obtain rfl : height = monitorHeight width := hnear
  simp only at hwidth hheight
  obtain ⟨hx, hy, hw, hh⟩ := bezel_ofArea hsize hwidth hheight
  have hnear := monitorHeight_near width
  have hlast := area.width_le_last
  refine
    { computed := ofArea?_eq_some area
      size_eq := by rw [hw, hh, hsize]
      floatHeight?_eq := by rw [hw, hh, floatHeight?_eq_some (by omega)]
      height_near := by rw [hw, hh]; omega
      columns_inside := by rw [Rect.right, Rect.right, hx, hw]; omega
      rows_inside := by rw [Rect.bottom, Rect.bottom, hy, hh]; omega
      columns_centered := by rw [Rect.right, Rect.right, hx, hw]; omega
      rows_centered := by rw [Rect.bottom, Rect.bottom, hy, hh]; omega
      screen_of_room := fun hcolumns hrows => Rect.inner_of_room hcolumns hrows
      screen_of_no_room := fun h => ?_ }
  have hscreen : (ofArea area).screen = .zero := Rect.inner_of_no_room h
  rw [hscreen]
  exact ⟨rfl, rfl⟩

/-- With 80 columns and 40 rows, the bezel has all of the columns and leaves five rows free above
and below. -/
example : ofArea (.clipped 0 0 80 40) = ⟨.clipped 0 5 80 30, .clipped 2 6 76 28⟩ := by decide

end Screen.MonitorLayout

end Cutscene
