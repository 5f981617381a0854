import Cutscene.Screen.Canvas
import Cutscene.Text.LineBreak

set_option relaxedAutoImplicit false
set_option autoImplicit false

/-!
# Frames

A frame is a border around a rectangle, with titles between the corners of its top and of its
bottom.

## Main definitions

* `Cutscene.Screen.Border` — the characters of a border.
* `Cutscene.Screen.Title` — a title, where it stands, and which end it loses where there is too
  little room.
* `Cutscene.Screen.Frame.draw` — draws a frame.
-/

namespace Cutscene.Screen

/-- The characters of a border. -/
structure Border where
  /-- The sides at the top and at the bottom. -/
  horizontal : Char
  /-- The sides on the left and on the right. -/
  vertical : Char
  /-- The corner at the top left. -/
  topLeft : Char
  /-- The corner at the top right. -/
  topRight : Char
  /-- The corner at the bottom left. -/
  bottomLeft : Char
  /-- The corner at the bottom right. -/
  bottomRight : Char

/-- A border of thick lines. -/
def Border.thick : Border := ⟨'━', '┃', '┏', '┓', '┗', '┛'⟩

/-- A border of thin lines with round corners. -/
def Border.rounded : Border := ⟨'─', '│', '╭', '╮', '╰', '╯'⟩

/-- A place along a line. -/
inductive Anchor where
  /-- At the start. -/
  | start
  /-- In the middle. -/
  | middle
  /-- At the end. -/
  | finish
  deriving DecidableEq, Repr

/-- A title. -/
structure Title where
  /-- The text. -/
  text : String
  /-- Its style. -/
  style : Style
  /-- Where it stands. -/
  anchor : Anchor
  /-- The part of it that is kept where there is too little room. -/
  kept : Anchor

namespace Title

/-- The free cells on the left of a title. -/
def offset (anchor : Anchor) (room length : Nat) : Nat :=
  match anchor with
  | .start => 0
  | .middle => (room - length) / 2
  | .finish => room - length

/-- What is left of symbols behind a number of columns. -/
def dropColumns (skipped : Nat) : List Glyph → List Glyph
  | [] => []
  | g :: rest => if skipped = 0 then g :: rest else dropColumns (skipped - g.columns) rest

/-- As many symbols as there is room for. -/
def takeColumns (room : Nat) : List Glyph → List Glyph
  | [] => []
  | g :: rest => if room < g.columns then [] else g :: takeColumns (room - g.columns) rest

/-- The symbols that are kept in a room. -/
def keep (kept : Anchor) (room : Nat) (glyphs : List Glyph) : List Glyph :=
  let excess := Glyph.totalColumns glyphs - room
  let skipped := match kept with
    | .start => 0
    | .middle => excess / 2
    | .finish => excess
  takeColumns room (dropColumns skipped glyphs)

/-- Draws a title into a row. Its line breaks are lost. -/
def draw (font : Font) (t : Title) (row : Rect) (c : Canvas) : Canvas :=
  let glyphs := keep t.kept row.width (font.glyphs (Text.withoutBreaks t.text.toList))
  let x := row.x + offset t.anchor row.width (Glyph.totalColumns glyphs)
  (c.write x row.y (glyphs.map fun g => (g, t.style))).clearHidden x row.y glyphs

end Title

/-- A border with its titles. -/
structure Frame where
  /-- The characters of the border. -/
  border : Border
  /-- The style of the border. -/
  style : Style
  /-- The title at the top. -/
  top : Option Title := none
  /-- The title at the bottom. -/
  bottom : Option Title := none

namespace Frame

/-- Draws the sides and then the corners. -/
def drawBorder (f : Frame) (r : Rect) (c : Canvas) : Canvas :=
  let column (x : Nat) (c : Canvas) :=
    (List.range r.height).foldl
      (fun c dy => c.put x (r.y + dy) (.singleton f.border.vertical) f.style) c
  let row (y : Nat) (c : Canvas) :=
    (List.range r.width).foldl
      (fun c dx => c.put (r.x + dx) y (.singleton f.border.horizontal) f.style) c
  let c := row (r.bottom - 1) (column (r.right - 1) (row r.y (column r.x c)))
  let c := c.put (r.right - 1) (r.bottom - 1) (.singleton f.border.bottomRight) f.style
  let c := c.put (r.right - 1) r.y (.singleton f.border.topRight) f.style
  let c := c.put r.x (r.bottom - 1) (.singleton f.border.bottomLeft) f.style
  c.put r.x r.y (.singleton f.border.topLeft) f.style

/-- The cells between the corners of a row of the border. -/
def titleRow (r : Rect) (y : Nat) : Rect := .clipped (r.x + 1) y (r.width - 2) 1

/-- Draws a frame along the inside of a rectangle. -/
def draw (font : Font) (f : Frame) (r : Rect) (c : Canvas) : Canvas :=
  let r := r.intersection c.area
  if r.isEmpty then c
  else
    let c := f.drawBorder r c
    let c := f.top.elim c fun t => t.draw font (titleRow r r.y) c
    f.bottom.elim c fun t => t.draw font (titleRow r (r.bottom - 1)) c

end Frame

end Cutscene.Screen
