import Cutscene.Screen.Font
import Cutscene.Screen.Ink
import Cutscene.Screen.Rect

set_option relaxedAutoImplicit false
set_option autoImplicit false

/-!
# Canvases

A canvas is a rectangle of cells to draw on. Everything that is drawn is clipped to it.

## Main definitions

* `Cutscene.Screen.Cell`, `Cutscene.Screen.Canvas` — symbols with their ink, row by row.
* `Cutscene.Screen.Canvas.setStyle`, `Cutscene.Screen.Canvas.clear`,
  `Cutscene.Screen.Canvas.write` — changing the cells of a rectangle, or along a row.
* `Cutscene.Screen.Canvas.texts`, `Cutscene.Screen.Canvas.inks` — what is on a canvas.
-/

namespace Cutscene.Screen

/-- What fills one column of a row, and its ink. -/
structure Cell where
  /-- A character, or characters that belong together. -/
  symbol : String := " "
  /-- Its ink. -/
  ink : Ink := {}
  deriving DecidableEq, Repr

instance : Inhabited Cell := ⟨{}⟩

/-- Changes the ink of a cell. -/
def Cell.style (c : Cell) (s : Style) : Cell := { c with ink := s.apply c.ink }

/-- A rectangle of cells. -/
structure Canvas where
  /-- Where the cells are. -/
  area : Rect
  /-- The cells, row by row. -/
  rows : Array (Array Cell)

namespace Canvas

/-- A canvas of blank cells. -/
def blank (area : Rect) : Canvas := ⟨area, .replicate area.height (.replicate area.width {})⟩

/-- Changes one cell, if it is on the canvas. -/
def modifyAt (c : Canvas) (x y : Nat) (f : Cell → Cell) : Canvas :=
  if c.area.contains x y then
    { c with rows := c.rows.modify (y - c.area.y) fun row => row.modify (x - c.area.x) f }
  else c

/-- Changes the cells of a rectangle. -/
def modify (c : Canvas) (r : Rect) (f : Cell → Cell) : Canvas :=
  let r := r.intersection c.area
  (List.range r.height).foldl
    (fun c dy => (List.range r.width).foldl (fun c dx => c.modifyAt (r.x + dx) (r.y + dy) f) c) c

/-- Changes the ink of a rectangle. -/
def setStyle (c : Canvas) (r : Rect) (s : Style) : Canvas := c.modify r (·.style s)

/-- Makes the cells of a rectangle blank. -/
def clear (c : Canvas) (r : Rect) : Canvas := c.modify r fun _ => {}

/-- Writes one symbol with a style. -/
def put (c : Canvas) (x y : Nat) (symbol : String) (s : Style) : Canvas :=
  c.modifyAt x y fun cell => { cell.style s with symbol }

/-- Writes symbols with their styles along a row, each behind the columns of those before it. One
that takes no column is not shown. -/
def write (c : Canvas) (x y : Nat) : List (Glyph × Style) → Canvas
  | [] => c
  | (g, s) :: rest =>
    (if g.columns = 0 then c else c.put x y g.symbol s).write (x + g.columns) y rest

/-- Makes the cells blank that are hidden behind symbols of several columns along a row. -/
def clearHidden (c : Canvas) (x y : Nat) : List Glyph → Canvas
  | [] => c
  | g :: rest =>
    (c.clear (.clipped (x + 1) y (g.columns - 1) 1)).clearHidden (x + g.columns) y rest

/-- The text of each row. -/
def texts (c : Canvas) : List String :=
  c.rows.toList.map fun row => String.join (row.toList.map Cell.symbol)

/-- The inks of each row: how many cells in a row have the same ink, and which. -/
def inks (c : Canvas) : List (List (Nat × Ink)) :=
  c.rows.toList.map fun row =>
    (row.toList.map Cell.ink).foldr
      (fun ink runs => match runs with
        | (count, other) :: rest =>
          if ink = other then (count + 1, other) :: rest else (1, ink) :: runs
        | [] => [(1, ink)]) []

end Canvas

end Cutscene.Screen
