set_option relaxedAutoImplicit false
set_option autoImplicit false

/-!
# Word wrap

A text is broken into lines at its blanks, each line as long as the width allows. A word that is
longer than a line starts on a line of its own and is cut where it has to be. Blanks at a break
are dropped, and so are blanks at the start; blanks behind a word stay if there is room for them.

## Main definitions

* `Cutscene.Screen.words` — the words of a text, one between any two blanks.
* `Cutscene.Screen.cut` — a word in pieces of a width.
* `Cutscene.Screen.wrapChars`, `Cutscene.Screen.wrap` — the lines of a text.
-/

namespace Cutscene.Screen

/-- The stretches between the blanks of a text, also the empty ones. -/
def words : List Char → List (List Char)
  | [] => [[]]
  | c :: cs =>
    if c = ' ' then [] :: words cs
    else
      match words cs with
      | [] => [[c]]
      | w :: ws => (c :: w) :: ws

/-- Cuts a word into pieces of exactly `width` characters, and a rest that is no longer. -/
def cut (width : Nat) (word : List Char) : List (List Char) × List Char :=
  if 0 < width ∧ width < word.length then
    let (pieces, rest) := cut width (word.drop width)
    (word.take width :: pieces, rest)
  else ([], word)
termination_by word.length
decreasing_by simp only [List.length_drop]; omega

/-- The lines of words that come behind a line that has been begun. A word goes onto the line if
there is room for it and a blank; otherwise it starts the next line, and as many more as it
needs. -/
def fill (width : Nat) (line : List Char) : List (List Char) → List (List Char)
  | [] => if line.isEmpty then [] else [line]
  | word :: words =>
    if line.isEmpty then
      let (pieces, rest) := cut width word
      pieces ++ fill width rest words
    else if width < line.length + 1 + word.length then
      let (pieces, rest) := cut width word
      line :: (pieces ++ fill width rest words)
    else fill width (line ++ ' ' :: word) words

/-- The lines of a text. There is always at least one, and only one where there is no width. -/
def wrapChars (width : Nat) (text : List Char) : List (List Char) :=
  if width = 0 then [[]]
  else
    match fill width [] (words text) with
    | [] => [[]]
    | lines => lines

/-- The lines of a text, as strings. -/
def wrap (width : Nat) (text : String) : List String :=
  (wrapChars width text.toList).map String.ofList

end Cutscene.Screen
