import Cutscene.Screen.Canvas
import Cutscene.Text.LineBreak

set_option relaxedAutoImplicit false
set_option autoImplicit false

/-!
# Paragraphs

Lines of styled text in a rectangle, from its left edge or centred. A line is shown up to the first
symbol for which there is no room left, and lines that are too far down are not shown.

## Main definitions

* `Cutscene.Screen.Span`, `Cutscene.Screen.TextLine` — text in one style, and a line of it.
* `Cutscene.Screen.TextLine.ofText` — a text laid out as a line.
* `Cutscene.Screen.TextLine.columns` — the columns of a line in a font.
* `Cutscene.Screen.Paragraph` — lines and how they are aligned.
* `Cutscene.Screen.Paragraph.draw` — draws them.
-/

namespace Cutscene.Screen

/-- Text in one style. -/
structure Span where
  /-- The text. -/
  text : String
  /-- The style. -/
  style : Style := {}

/-- A line of text in different styles. -/
abbrev TextLine := List Span

namespace TextLine

/-- A text as a line without a style of its own. Its line breaks are lost. -/
def ofText (text : String) : TextLine :=
  [⟨String.ofList (Text.withoutBreaks text.toList), {}⟩]

/-- The symbols of a line with their styles. A line feed that stands alone is none. -/
def glyphs (font : Font) (line : TextLine) : List (Glyph × Style) :=
  line.flatMap fun span =>
    ((font.glyphs span.text.toList).filter (·.symbol ≠ "\n")).map fun g => (g, span.style)

/-- The columns of a line. -/
def columns (font : Font) (line : TextLine) : Nat :=
  Glyph.totalColumns ((line.glyphs font).map (·.1))

/-- The symbols of a line that are shown in a width behind some columns, up to the first for which
there is no room left. One that is wider than the whole width is left out. -/
def visible (width used : Nat) : List (Glyph × Style) → List (Glyph × Style)
  | [] => []
  | (g, s) :: rest =>
    if width < g.columns then visible width used rest
    else if width < used + g.columns then []
    else (g, s) :: visible width (used + g.columns) rest

end TextLine

/-- Lines of text. -/
structure Paragraph where
  /-- The lines. -/
  lines : List TextLine
  /-- Whether the lines are centred. -/
  centered : Bool := false
  /-- The style of the whole rectangle. -/
  style : Style := {}

namespace Paragraph

/-- How far a line starts from the left edge: a centred one with its middle in the middle. -/
def offset (p : Paragraph) (width length : Nat) : Nat :=
  if p.centered then width / 2 - length / 2 else 0

/-- Draws lines one below the other, the first into a row, as far as there are rows. -/
def drawLines (font : Font) (p : Paragraph) (r : Rect) (y : Nat) (c : Canvas) :
    List TextLine → Canvas
  | [] => c
  | line :: rest =>
    if y < r.bottom then
      let glyphs := TextLine.visible r.width 0 (line.glyphs font)
      let x := r.x + p.offset r.width (Glyph.totalColumns (glyphs.map (·.1)))
      p.drawLines font r (y + 1) (c.write x y glyphs) rest
    else c

/-- Draws a paragraph. -/
def draw (font : Font) (p : Paragraph) (r : Rect) (c : Canvas) : Canvas :=
  let r := r.intersection c.area
  if r.isEmpty then c else p.drawLines font r r.y (c.setStyle r p.style) p.lines

end Paragraph

end Cutscene.Screen
