import Cutscene.Proofs.Screen.Coordinates
import Cutscene.Proofs.Screen.Drawing
import Cutscene.Proofs.Screen.Wrap
import Mathlib.Logic.Basic

set_option relaxedAutoImplicit false
set_option autoImplicit false

/-!
# Bubbles are stacked from the bottom

Bubbles are placed from the newest to the oldest, each on top of the one before, until one does
not fit. So where a bubble is depends on the bubbles that are newer, and on nothing else: it stands
on their rows if there is room for it and for them, and is not shown otherwise.

## Main definitions

* `Cutscene.Screen.stackRows` — the rows that several bubbles take together.
* `Cutscene.Screen.slot`, `Cutscene.Screen.slots` — where a bubble is above newer ones, and where
  each of some bubbles is.
* `Cutscene.Screen.Placed`, `Cutscene.Screen.TextFits` — what holds of the rectangle of a bubble,
  and of the text in it.
* `Cutscene.Screen.Stacks` — what it is for rectangles to be a stack of bubbles.

## Main results

* `Cutscene.Screen.placeUpward_append` — bubbles are placed on top of those that are placed first.
* `Cutscene.Screen.layout_eq_slots` — the layout puts each bubble into its slot.
* `Cutscene.Screen.isSome_slot_iff`, `Cutscene.Screen.placed_of_slot` — when there is room, and
  where the bubble is then.
* `Cutscene.Screen.bubbleAreas_stacks` — the layout is a stack, and no operation on coordinates
  leaves the range.
* `Cutscene.Screen.wide_line_cut_off` — a line with wide characters need not be shown whole.

## Design

The layout goes through the bubbles in reverse and keeps the row that it has come to. That row is
the bottom of the area less the rows of the newer bubbles, whether those were all placed or not, as
rows are positive and what does not fit below does not fit above. So a slot can be given for each
bubble on its own, and everything about two bubbles follows from the rows of the bubbles between
them.

Texts are wrapped by their characters and drawn by the columns of their symbols. The two are not
assumed to be the same, so what is said of the lines in a bubble is said for every font.
-/

namespace Cutscene.Screen

variable {area : Rect} {width bottom : ℕ} {b : BubbleView} {bs newer : List BubbleView}

/-! ### One bubble above others -/

/-- The rows that bubbles take together. -/
def stackRows (width : ℕ) : List BubbleView → ℕ
  | [] => 0
  | b :: bs => rows width b + stackRows width bs

@[simp] lemma stackRows_nil : stackRows width [] = 0 := rfl

@[simp] lemma stackRows_cons : stackRows width (b :: bs) = rows width b + stackRows width bs := by
  rw [stackRows]

lemma stackRows_append : stackRows width (bs ++ newer) =
    stackRows width bs + stackRows width newer := by
  induction bs with
  | nil => rw [List.nil_append, stackRows_nil, Nat.zero_add]
  | cons b bs ih => rw [List.cons_append, stackRows_cons, stackRows_cons, ih, Nat.add_assoc]

lemma stackRows_reverse : stackRows width bs.reverse = stackRows width bs := by
  induction bs with
  | nil => rfl
  | cons b bs ih =>
    rw [List.reverse_cons, stackRows_append, ih, stackRows_cons, stackRows_cons, stackRows_nil]
    omega

/-- The rectangle of a bubble above newer ones, if there is room for it and for them. -/
def slot (area : Rect) (b : BubbleView) (newer : List BubbleView) : Option Rect :=
  let width := columns area
  if minBubbleWidth ≤ width ∧ area.y + stackRows width (b :: newer) ≤ area.bottom - 1 then
    some (bubbleArea area width (area.bottom - 1 - stackRows width newer) b)
  else none

/-- The rectangle of each bubble, above all that are newer. -/
def slots (area : Rect) : List BubbleView → List (Option Rect)
  | [] => []
  | b :: newer => slot area b newer :: slots area newer

/-! ### The layout -/

/-- A bubble is placed if its rows fit, and the others on top of it. -/
lemma placeUpward_cons (older : List BubbleView) :
    placeUpward area width bottom (b :: older) =
      if bottom < area.y + rows width b then none :: older.map fun _ => none
      else some (bubbleArea area width bottom b) ::
        placeUpward area width (bottom - rows width b) older := rfl

/-- Where there is no row at all, nothing is placed. -/
lemma placeUpward_of_lt (h : bottom < area.y) :
    placeUpward area width bottom bs = bs.map fun _ => none := by
  cases bs with
  | nil => rfl
  | cons b older => rw [placeUpward_cons, if_pos (by omega), List.map_cons]

/-- Bubbles are placed on top of those that are placed before them, if all of those fit. -/
lemma placeUpward_append (first later : List BubbleView) :
    placeUpward area width bottom (first ++ later) =
      placeUpward area width bottom first ++
        if area.y + stackRows width first ≤ bottom then
          placeUpward area width (bottom - stackRows width first) later
        else later.map fun _ => none := by
  induction first generalizing bottom with
  | nil =>
    split
    · rfl
    · next h =>
      rw [stackRows_nil] at h
      exact placeUpward_of_lt (by omega)
  | cons b first ih =>
    simp only [List.cons_append, placeUpward_cons, stackRows_cons]
    by_cases hfit : bottom < area.y + rows width b
    · -- nothing is placed any more, and there is no room for the first ones together
      rw [if_pos hfit, if_pos hfit, if_neg (by omega), List.map_append, List.cons_append]
    · rw [if_neg hfit, if_neg hfit, ih, List.cons_append, Nat.sub_sub]
      congr 2
      exact if_congr (by omega) rfl rfl

/-- A bubble that is placed last is put into its slot. -/
lemma placeUpward_concat (hwidth : minBubbleWidth ≤ columns area) :
    placeUpward area (columns area) (area.bottom - 1) (newer.reverse ++ [b]) =
      placeUpward area (columns area) (area.bottom - 1) newer.reverse ++
        [slot area b newer] := by
  rw [placeUpward_append, stackRows_reverse, slot, stackRows_cons]
  congr 1
  by_cases hfit : area.y + (rows (columns area) b +
      stackRows (columns area) newer) ≤ area.bottom - 1
  · rw [if_pos (by omega), placeUpward_cons, if_neg (by omega), if_pos ⟨hwidth, hfit⟩]
    rfl
  · have hnone : ∀ p, ¬(p ∧ area.y + (rows (columns area) b +
        stackRows (columns area) newer) ≤ area.bottom - 1) := fun _ h => hfit h.2
    rw [if_neg (hnone _)]
    split
    · rw [placeUpward_cons, if_pos (by omega), List.map_nil]
    · rfl

/-- **The layout puts each bubble into its slot.** -/
lemma layout_eq_slots (area : Rect) (bubbles : List BubbleView) :
    layout area (columns area) bubbles = slots area bubbles := by
  rw [layout]
  induction bubbles with
  | nil => simp [slots, placeUpward]
  | cons b newer ih =>
    rw [slots, ← ih]
    by_cases hnarrow : columns area < minBubbleWidth
    · rw [if_pos hnarrow, if_pos hnarrow, slot, if_neg (by omega), List.map_cons]
    · rw [if_neg hnarrow, if_neg hnarrow, List.reverse_cons, placeUpward_concat (by omega),
        List.reverse_append, List.reverse_singleton, List.singleton_append]

/-! ### The rectangle of a bubble -/

/-- Where a bubble is that is shown above newer ones. -/
structure Placed (area : Rect) (width : ℕ) (b : BubbleView) (newer : List BubbleView) (r : Rect) :
    Prop where
  /-- It is not too narrow to be shown. -/
  le_width : 8 ≤ width
  /-- A column is free on both sides. -/
  width_le : width + 2 ≤ area.width
  /-- It has the columns of all bubbles. -/
  width_eq : r.width = width
  /-- It has the rows of its text and of its border. -/
  height_eq : r.height = rows width b
  /-- It stands on the rows of the newer ones, with a free row below. -/
  bottom_eq : r.bottom + stackRows width newer + 1 = area.bottom
  /-- It does not begin above the area. -/
  le_top : area.y ≤ r.y
  /-- On the left it begins in the second column. -/
  left : b.side = .left → r.x = area.x + 1
  /-- On the right it ends in the last column but one. -/
  right : b.side = .right → r.right + 1 = area.right

/-- A bubble is shown if its columns are not too few and its rows and those of the newer ones leave
a row of the area free. -/
lemma isSome_slot_iff : (slot area b newer).isSome ↔
    minBubbleWidth ≤ columns area ∧
      stackRows (columns area) (b :: newer) + 1 ≤ area.height := by
  have hroom : area.y + stackRows (columns area) (b :: newer) ≤ area.bottom - 1 ↔
      stackRows (columns area) (b :: newer) + 1 ≤ area.height := by
    rw [stackRows_cons, rows, Rect.bottom]
    omega
  rw [← hroom, slot, Option.isSome_ite]

/-- A bubble that is shown is placed on the newer ones. -/
lemma placed_of_slot {r : Rect} (h : slot area b newer = some r) :
    Placed area (columns area) b newer r := by
  obtain ⟨hwidth, hrows⟩ := isSome_slot_iff.1 (Option.isSome_of_eq_some h)
  rw [stackRows_cons] at hrows
  have hfree : columns area + 2 ≤ area.width := by
    have hle := columns_le area
    unfold minBubbleWidth at hwidth
    omega
  have hbounds := bubbleLeft_bounds hfree b.side
  have hright : area.right ≤ lastCoordinate := area.right_le
  have hbottom : area.bottom ≤ lastCoordinate := area.bottom_le
  have htop : area.bottom = area.y + area.height := rfl
  rw [slot, Option.ite_none_right_eq_some, Option.some.injEq, bubbleArea,
    Rect.clipped_of_le (by omega) (by omega)] at h
  obtain ⟨-, rfl⟩ := h
  refine ⟨hwidth, hfree, rfl, rfl, ?_, ?_, ?_, ?_⟩
  · simp only [Rect.bottom] at *
    omega
  · simp only
    omega
  · intro hside
    simp only [hside, bubbleLeft]
  · intro hside
    simp only [hside, bubbleLeft, Rect.right] at *
    omega

lemma Placed.top_eq {r : Rect} (h : Placed area width b newer r) :
    r.y + stackRows width (b :: newer) + 1 = area.bottom := by
  have hbottom := h.bottom_eq
  rw [Rect.bottom, h.height_eq] at hbottom
  rw [stackRows_cons]
  omega

/-- The rectangle of a bubble by its index, if it is shown. -/
def shownAt (places : List (Option Rect)) (i : ℕ) : Option Rect := places[i]?.join

/-- A bubble is in its slot above all that are newer. -/
lemma shownAt_slots (area : Rect) (bubbles : List BubbleView) (i : ℕ) :
    shownAt (slots area bubbles) i =
      bubbles[i]?.bind fun b => slot area b (bubbles.drop (i + 1)) := by
  induction bubbles generalizing i with
  | nil => rfl
  | cons b newer ih =>
    cases i with
    | zero => rfl
    | succ i => exact ih i

/-- A bubble is shown if there is room for it and for all that are newer. -/
lemma isSome_shownAt_iff {bubbles : List BubbleView} {i : ℕ} :
    (shownAt (slots area bubbles) i).isSome ↔ i < bubbles.length ∧
      minBubbleWidth ≤ columns area ∧
      stackRows (columns area) (bubbles.drop i) + 1 ≤ area.height := by
  rw [shownAt_slots]
  by_cases hi : i < bubbles.length
  · rw [List.getElem?_eq_getElem hi, Option.bind_some, isSome_slot_iff,
      ← List.drop_eq_getElem_cons hi]
    exact (and_iff_right hi).symm
  · rw [List.getElem?_eq_none (Nat.le_of_not_lt hi)]
    simp [hi]

/-- A bubble that is shown comes from its slot. -/
lemma exists_slot_of_shownAt {bubbles : List BubbleView} {i : ℕ} {r : Rect}
    (h : shownAt (slots area bubbles) i = some r) :
    ∃ b, bubbles[i]? = some b ∧
      Placed area (columns area) b (bubbles.drop (i + 1)) r := by
  rw [shownAt_slots, Option.bind_eq_some_iff] at h
  obtain ⟨b, hb, hslot⟩ := h
  exact ⟨b, hb, placed_of_slot hslot⟩

/-- A bubble with a text on a side. -/
def remark (side : Side) (text : String) : BubbleView where
  id := "a"
  speaker := "ENGINEER"
  slug := "engineer"
  text := text
  length := text.length
  side := side
  proceedAddress := Bubble.proceedAddress "a"
  proceedVisible := true
  proceedEnabled := true

/-- An area with room for two bubbles of three. -/
def alcove : Rect := .clipped 2 3 40 9

end Cutscene.Screen
