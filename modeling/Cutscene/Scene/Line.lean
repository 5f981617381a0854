import Cutscene.Json.Reader
import Cutscene.Text.Blank
import Cutscene.Text.Lowercase

set_option relaxedAutoImplicit false
set_option autoImplicit false

/-!
# Lines of dialogue

A line is what one speaker says, on one side of the screen. Speakers are named freely; a style
key made from the name lets renderers give a speaker a colour.

## Main definitions

* `Cutscene.Side` — left or right.
* `Cutscene.slug` — the style key of a speaker.
* `Cutscene.Line` — a speaker, a text and a side.
-/

namespace Cutscene

/-- The side of the screen that a bubble is anchored to. -/
inductive Side where
  /-- The left edge. -/
  | left
  /-- The right edge. -/
  | right
  deriving DecidableEq, Repr, Inhabited

namespace Side

/-- The name of a side. -/
def name : Side → String
  | left => "left"
  | right => "right"

/-- The names to choose from. -/
def choices : List (String × Side) := [("left", left), ("right", right)]

end Side

/-- The style key of a speaker: lower case, without commas, apostrophes, dashes, underscores and
blanks. -/
def slug (speaker : String) : String :=
  String.ofList ((speaker.toList.filter fun c =>
    !(c == ',' || c == '\'' || c == '-' || c == '_') && !Text.isBlank c).flatMap Text.lowercase)

/-- What one speaker says. -/
structure Line where
  /-- The name of the speaker. -/
  speaker : String
  /-- The whole text. -/
  text : String
  /-- The side of the bubble. -/
  side : Side
  deriving DecidableEq, Repr

namespace Line

/-- The number of characters that are typed. -/
def length (line : Line) : Nat := line.text.toList.length

/-- The members of a line in JSON. -/
def members (line : Line) : List (String × Json) :=
  [("speaker", .text line.speaker), ("text", .text line.text), ("align", .text line.side.name)]

/-- A line that is being read. -/
structure Parts where
  /-- The speaker. -/
  speaker : Option String
  /-- The text. -/
  text : Option String
  /-- The side. -/
  side : Option Side

/-- The fields of a line; the two readers of sides differ in what they look at. -/
def schema (readSide : Json.Reader Side) : Json.Schema Parts Line where
  title := "struct DialogueLine"
  fields := [
    ⟨"speaker", fun p => p.speaker.isSome,
      fun o p => return { p with speaker := some (← Json.readString o) }⟩,
    ⟨"text", fun p => p.text.isSome,
      fun o p => return { p with text := some (← Json.readString o) }⟩,
    ⟨"align", fun p => p.side.isSome,
      fun o p => return { p with side := some (← readSide o) }⟩]
  start := ⟨none, none, none⟩
  finish missing p := do
    let speaker ← Json.required missing 0 "speaker" p.speaker
    let text ← Json.required missing 1 "text" p.text
    let side ← Json.required missing 2 "align" p.side
    return ⟨speaker, text, side⟩

/-- Reads a line. -/
def read : Json.Reader Line := (schema (Json.readChoice Side.choices)).read

end Line

example : slug "MANAGER'S MOM" = "managersmom" := by decide +kernel

end Cutscene
