set_option relaxedAutoImplicit false
set_option autoImplicit false

/-!
# Ink

What a cell looks like: two colours and how its character is set. A style changes some of it and
leaves the rest.

## Main definitions

* `Cutscene.Screen.Color` — the colours in use.
* `Cutscene.Screen.Emphasis` — how characters are set.
* `Cutscene.Screen.Ink` — the look of a cell.
* `Cutscene.Screen.Style` — a change of ink.
-/

namespace Cutscene.Screen

/-- A colour. -/
inductive Color where
  /-- Whatever the terminal takes by itself. -/
  | reset
  /-- Black. -/
  | black
  /-- Red. -/
  | red
  /-- Green. -/
  | green
  /-- Yellow. -/
  | yellow
  /-- Magenta. -/
  | magenta
  /-- Cyan. -/
  | cyan
  /-- Gray. -/
  | gray
  /-- Dark gray. -/
  | darkGray
  /-- Light green. -/
  | lightGreen
  /-- White. -/
  | white
  deriving DecidableEq, Repr

/-- The name of a colour. -/
def Color.name : Color → String
  | reset => "Reset"
  | black => "Black"
  | red => "Red"
  | green => "Green"
  | yellow => "Yellow"
  | magenta => "Magenta"
  | cyan => "Cyan"
  | gray => "Gray"
  | darkGray => "DarkGray"
  | lightGreen => "LightGreen"
  | white => "White"

/-- How a character is set. -/
structure Emphasis where
  /-- In bold. -/
  bold : Bool := false
  /-- Dimmed. -/
  dim : Bool := false
  /-- In italics. -/
  italic : Bool := false
  /-- Underlined. -/
  underlined : Bool := false
  deriving DecidableEq, Repr

namespace Emphasis

/-- Both of two emphases. -/
def union (a b : Emphasis) : Emphasis :=
  ⟨a.bold || b.bold, a.dim || b.dim, a.italic || b.italic, a.underlined || b.underlined⟩

/-- The names of what is on. -/
def names (e : Emphasis) : List String :=
  (if e.bold then ["BOLD"] else []) ++ (if e.dim then ["DIM"] else []) ++
    (if e.italic then ["ITALIC"] else []) ++ (if e.underlined then ["UNDERLINED"] else [])

end Emphasis

/-- The look of a cell. -/
structure Ink where
  /-- The colour of the character. -/
  fore : Color := .reset
  /-- The colour behind it. -/
  back : Color := .reset
  /-- How the character is set. -/
  emphasis : Emphasis := {}
  deriving DecidableEq, Repr

/-- The two colours and the emphasis, in words. -/
def Ink.describe (i : Ink) : String :=
  i.fore.name ++ " " ++ i.back.name ++ " " ++ "|".intercalate i.emphasis.names

/-- A change of ink. -/
structure Style where
  /-- The new colour of the character, if it changes. -/
  fore : Option Color := none
  /-- The new colour behind it, if it changes. -/
  back : Option Color := none
  /-- The emphasis that is added. -/
  emphasis : Emphasis := {}
  deriving DecidableEq, Repr

namespace Style

/-- Changes nothing. -/
def none : Style := {}

/-- Changes an ink. -/
def apply (s : Style) (i : Ink) : Ink :=
  ⟨s.fore.getD i.fore, s.back.getD i.back, i.emphasis.union s.emphasis⟩

/-- Adds bold. -/
def bold (s : Style) : Style := { s with emphasis := { s.emphasis with bold := true } }

/-- Adds dimming. -/
def dim (s : Style) : Style := { s with emphasis := { s.emphasis with dim := true } }

/-- Adds italics. -/
def italic (s : Style) : Style := { s with emphasis := { s.emphasis with italic := true } }

/-- Adds underlining. -/
def underlined (s : Style) : Style := { s with emphasis := { s.emphasis with underlined := true } }

end Style

end Cutscene.Screen
