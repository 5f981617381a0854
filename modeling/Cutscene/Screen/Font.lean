import Cutscene.Text.Printable
import Cutscene.Text.Wide

set_option relaxedAutoImplicit false
set_option autoImplicit false

/-!
# Fonts

What stands in a row of cells for a text is up to the terminal: it divides the text into symbols, of
one character or of several that belong together, and gives each of them a number of columns.
Everything that is drawn takes the font of the terminal as it is, whatever that may be.

## Main definitions

* `Cutscene.Screen.Glyph`, `Cutscene.Screen.Font` — a symbol with its columns, and the symbols of
  every text.
* `Cutscene.Screen.Font.terminal` — a font with wide characters and with marks that join the
  character before them.
-/

namespace Cutscene.Screen

/-- A symbol and the columns that it takes. -/
structure Glyph where
  /-- A character, or characters that belong together. -/
  symbol : String
  /-- The columns of a row that it takes. -/
  columns : Nat
  deriving DecidableEq, Repr

/-- The columns of symbols together. -/
def Glyph.totalColumns : List Glyph → Nat
  | [] => 0
  | g :: rest => g.columns + totalColumns rest

/-- How a terminal sets texts. -/
structure Font where
  /-- The symbols of a text, one behind the other. -/
  glyphs : List Char → List Glyph

namespace Font

/-- Whether a character stands in one symbol with the character before it: a mark, unless it is
behind a control character, or the line feed behind a carriage return. -/
def joins (before c : Char) : Bool :=
  (before == '\r' && c == '\n') ||
    ((Text.extendsGrapheme c || c == '\u200d') && 0x20 ≤ before.toNat)

/-- The characters of a text in groups that stand together. -/
def clusters : List Char → List (List Char)
  | [] => []
  | c :: cs =>
    match clusters cs with
    | (d :: ds) :: rest => if joins c d then (c :: d :: ds) :: rest else [c] :: (d :: ds) :: rest
    | rest => [c] :: rest

/-- The columns of characters that stand together: those of the first, which are two if it is wide
and none if it is a mark that there is nothing to join. -/
def clusterColumns : List Char → Nat
  | [] => 0
  | c :: _ => if Text.isWide c then 2 else if Text.extendsGrapheme c then 0 else 1

/-- A font of characters in one or two columns, with marks that join the character before. -/
def terminal : Font where
  glyphs cs := (clusters cs).map fun cluster => ⟨.ofList cluster, clusterColumns cluster⟩

example : terminal.glyphs "a\r\nb漢e\u0301".toList =
    [⟨"a", 1⟩, ⟨"\r\n", 1⟩, ⟨"b", 1⟩, ⟨"漢", 2⟩, ⟨"e\u0301", 1⟩] := by
  decide +kernel

end Font

end Cutscene.Screen
