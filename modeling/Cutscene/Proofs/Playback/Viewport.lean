import Cutscene.Playback.Viewport
import Mathlib.Data.Nat.Notation

set_option relaxedAutoImplicit false
set_option autoImplicit false

/-!
# The monitor of a viewport

A monitor of a width fits in a viewport if neither the width nor the height that belongs to it is
too large. The height is rounded, so there are two widths or three for each height. A viewport that
can show a monitor of its full width does so. One that is too low for that takes the width to which
its height belongs without rounding, and this is one column less than the largest that fits.

## Main definitions

* `Cutscene.Viewport.Tall` — the full width of a viewport fits.
* `Cutscene.Viewport.Holds`, `Cutscene.Viewport.IsLargest` — a monitor fits, and is the widest of
  those that do.

## Main results

* `Cutscene.monitorHeight_le_iff` — the widths whose heights are not above a height.
* `Cutscene.Viewport.monitorSize_of_tall`, `Cutscene.Viewport.monitorSize_of_not_tall` — the two
  kinds of viewports.
* `Cutscene.Viewport.monitorSize_of_le` — the monitors of a viewport and of a larger one.
* `Cutscene.Viewport.monitorSize_largest_or_one_short` — the monitor of a viewport is the largest,
  or has one column less.

## Design

All that is needed of rounding is said once, by `monitorHeight_near`. From it follows which widths
have no more than a height (`monitorHeight_le_iff`), and with that the two kinds of viewports are
compared by their widths and by `8 * height / 3`, the width to which a height belongs.
-/

namespace Cutscene

/-! ### The height of a monitor -/

/-- The height is three eighths of the width, with an error of at most a half. -/
lemma monitorHeight_near (width : ℕ) :
    8 * monitorHeight width ≤ 3 * width + 4 ∧ 3 * width < 8 * monitorHeight width + 4 := by
  unfold monitorHeight
  omega

/-- **The widths whose heights are not above a height.** -/
lemma monitorHeight_le_iff {width height : ℕ} :
    monitorHeight width ≤ height ↔ width ≤ 8 * height / 3 + 1 := by
  have hnear := monitorHeight_near width
  omega

/-- The width to which a height belongs without rounding, and the next, have that height. -/
lemma monitorHeight_eq_of_width {width height : ℕ}
    (h : width = 8 * height / 3 ∨ width = 8 * height / 3 + 1) : monitorHeight width = height := by
  have hnear := monitorHeight_near width
  omega

lemma monitorHeight_mono {width wider : ℕ} (h : width ≤ wider) :
    monitorHeight width ≤ monitorHeight wider :=
  Nat.div_le_div_right (by omega)

namespace Viewport

variable {v larger : Viewport}

/-! ### Monitors that fit -/

/-- The full width fits. -/
def Tall (v : Viewport) : Prop := monitorHeight v.width ≤ v.height

instance (v : Viewport) : Decidable v.Tall :=
  inferInstanceAs (Decidable (monitorHeight v.width ≤ v.height))

/-- A monitor of a width and a height fits. -/
structure Holds (v : Viewport) (size : ℕ × ℕ) : Prop where
  /-- The height belongs to the width. -/
  height_eq : size.2 = monitorHeight size.1
  /-- There are as many columns. -/
  width_le : size.1 ≤ v.width
  /-- There are as many rows. -/
  height_le : size.2 ≤ v.height

/-- A monitor fits and no wider one does. -/
structure IsLargest (v : Viewport) (size : ℕ × ℕ) : Prop extends v.Holds size where
  /-- No wider one fits. -/
  greatest : ∀ other, v.Holds other → other.1 ≤ size.1

lemma holds_iff {width : ℕ} : v.Holds (width, monitorHeight width) ↔
    width ≤ v.width ∧ width ≤ 8 * v.height / 3 + 1 := by
  rw [← monitorHeight_le_iff]
  exact ⟨fun h => ⟨h.width_le, h.height_le⟩, fun h => ⟨rfl, h.1, h.2⟩⟩

/-- The widest monitor has the full width, unless the height allows less. -/
lemma isLargest_iff {width : ℕ} : v.IsLargest (width, monitorHeight width) ↔
    width = min v.width (8 * v.height / 3 + 1) := by
  constructor
  · intro h
    have hholds := holds_iff.1 h.toHolds
    have hgreatest := h.greatest _ (holds_iff.2 ⟨Nat.min_le_left .., Nat.min_le_right ..⟩)
    simp only at hgreatest
    omega
  · rintro rfl
    refine ⟨holds_iff.2 ⟨Nat.min_le_left .., Nat.min_le_right ..⟩, fun other h => ?_⟩
    obtain ⟨w, height⟩ := other
    obtain rfl : height = monitorHeight w := h.height_eq
    have hholds := holds_iff.1 h
    simp only
    omega

/-! ### The monitor that is shown -/

lemma tall_iff : v.Tall ↔ v.width ≤ 8 * v.height / 3 + 1 := monitorHeight_le_iff

lemma monitorSize_of_tall (h : v.Tall) : v.monitorSize = (v.width, monitorHeight v.width) :=
  if_pos h

/-- A viewport that is too low for its width takes the width to which its height belongs. -/
lemma monitorSize_of_not_tall (h : ¬v.Tall) :
    v.monitorSize = (8 * v.height / 3, v.height) := by
  have hwidth : min (8 * v.height / 3) v.width = 8 * v.height / 3 := by
    rw [tall_iff] at h
    omega
  have hlow : ¬monitorHeight v.width ≤ v.height := h
  rw [monitorSize, if_neg hlow]
  simp only [hwidth, monitorHeight_eq_of_width (.inl rfl), Nat.min_self]

/-- The monitor fits. -/
lemma holds_monitorSize (v : Viewport) : v.Holds v.monitorSize := by
  by_cases h : v.Tall
  · rw [monitorSize_of_tall h]
    exact ⟨rfl, Nat.le_refl _, h⟩
  · rw [monitorSize_of_not_tall h]
    rw [tall_iff] at h
    exact ⟨(monitorHeight_eq_of_width (.inl rfl)).symm, by simp only; omega, Nat.le_refl _⟩

/-- It is the largest if the full width fits. -/
lemma isLargest_of_tall (h : v.Tall) : v.IsLargest v.monitorSize := by
  rw [monitorSize_of_tall h, isLargest_iff]
  exact (Nat.min_eq_left (tall_iff.1 h)).symm

/-- Otherwise the largest has one column more. -/
lemma isLargest_of_not_tall (h : ¬v.Tall) :
    v.IsLargest (v.monitorSize.1 + 1, v.monitorSize.2) := by
  have hheight := monitorHeight_eq_of_width (.inr (Eq.refl (8 * v.height / 3 + 1)))
  have hlargest : v.IsLargest (8 * v.height / 3 + 1, monitorHeight (8 * v.height / 3 + 1)) := by
    rw [tall_iff] at h
    rw [isLargest_iff]
    omega
  rw [monitorSize_of_not_tall h]
  rwa [hheight] at hlargest

/-! ### Larger viewports -/

/-- A larger viewport has a monitor that is no lower and at most one column narrower. It is narrower
exactly if the smaller viewport is tall and has the one column that the monitor of the larger one
is short of. -/
lemma monitorSize_of_le (hwidth : v.width ≤ larger.width) (hheight : v.height ≤ larger.height) :
    v.monitorSize.2 ≤ larger.monitorSize.2 ∧ v.monitorSize.1 ≤ larger.monitorSize.1 + 1 ∧
      (larger.monitorSize.1 < v.monitorSize.1 ↔
        v.Tall ∧ ¬larger.Tall ∧ v.width = larger.monitorSize.1 + 1) := by
  by_cases hlarger : larger.Tall
  · -- the larger monitor has the full width
    have hle : v.monitorSize.1 ≤ larger.width :=
      Nat.le_trans (holds_monitorSize v).width_le hwidth
    rw [monitorSize_of_tall hlarger, (holds_monitorSize v).height_eq]
    refine ⟨monitorHeight_mono hle, by simp only; omega, ?_⟩
    simp only [hlarger, not_true_eq_false, false_and, and_false, iff_false]
    omega
  · rw [monitorSize_of_not_tall hlarger]
    refine ⟨Nat.le_trans (holds_monitorSize v).height_le hheight, ?_⟩
    by_cases h : v.Tall
    · rw [monitorSize_of_tall h]
      have hbound := tall_iff.1 h
      simp only [h, hlarger, not_false_eq_true, true_and]
      omega
    · -- both widths are those of the heights
      rw [monitorSize_of_not_tall h]
      simp only [h, false_and, iff_false]
      omega

/-- **The monitor of a viewport fits, and is the largest if it has the full width; otherwise the
largest has one column more.** So a larger viewport has a monitor that is no lower, and is narrower
only by the one column that it may be short of.

**Proof sketch.** The widest monitor has the full width or is the widest for the height of the
viewport (`isLargest_iff`). If the full width is too much, it is the width to which the height
belongs that is shown (`monitorSize_of_not_tall`), and the next has the same height
(`monitorHeight_eq_of_width`). -/
theorem monitorSize_largest_or_one_short (v : Viewport) :
    v.Holds v.monitorSize ∧
      (v.Tall → v.IsLargest v.monitorSize) ∧
      (¬v.Tall → v.IsLargest (v.monitorSize.1 + 1, v.monitorSize.2)) ∧
      ∀ larger : Viewport, v.width ≤ larger.width → v.height ≤ larger.height →
        v.monitorSize.2 ≤ larger.monitorSize.2 ∧ v.monitorSize.1 ≤ larger.monitorSize.1 + 1 ∧
          (larger.monitorSize.1 < v.monitorSize.1 ↔
            v.Tall ∧ ¬larger.Tall ∧ v.width = larger.monitorSize.1 + 1) :=
  ⟨holds_monitorSize v, isLargest_of_tall, isLargest_of_not_tall,
    fun _ hwidth hheight => monitorSize_of_le hwidth hheight⟩

/-- With one column more than 107 and 40 rows as before, the monitor loses a column, which is the
one that it is short of. -/
theorem monitorSize_largest_or_one_short_at_107 :
    Viewport.IsLargest ⟨107, 40⟩ (107, 40) ∧ monitorSize ⟨107, 40⟩ = (107, 40) ∧
      Viewport.IsLargest ⟨108, 40⟩ (107, 40) ∧ monitorSize ⟨108, 40⟩ = (106, 40) ∧
      ((106 < 107) ↔ Viewport.Tall ⟨107, 40⟩ ∧ ¬Viewport.Tall ⟨108, 40⟩ ∧ 107 = 106 + 1) := by
  obtain ⟨-, hlargest, -, hlarger⟩ := monitorSize_largest_or_one_short ⟨107, 40⟩
  obtain ⟨-, -, hshort, -⟩ := monitorSize_largest_or_one_short ⟨108, 40⟩
  exact ⟨hlargest (by decide), rfl, hshort (by decide), rfl,
    (hlarger ⟨108, 40⟩ (by decide) (by decide)).2.2⟩

end Viewport

end Cutscene
