set_option relaxedAutoImplicit false
set_option autoImplicit false

/-!
# Tables

Tables of text: a header, and rows that are divided by lines. Each column is as wide as its
longest line, with a blank on both sides.

## Main definitions

* `Cutscene.Command.Table` — a header and rows.
* `Cutscene.Command.Table.render` — the text of a table.
-/

namespace Cutscene.Command

/-- A table of text. -/
structure Table where
  /-- The titles of the columns. -/
  header : List String
  /-- The rows. -/
  rows : List (List String)

namespace Table

/-- The lines of a cell. -/
def cellLines (cell : String) : List String := cell.splitOn "\n"

/-- The widths of the columns. -/
def widths (t : Table) : List Nat :=
  t.header.mapIdx fun i title =>
    (title :: t.rows.map fun row => row.getD i "").foldl
      (fun width cell => (cellLines cell).foldl (fun width line => max width line.length) width) 0

/-- A line between rows. -/
def rule (left fill middle right : String) (widths : List Nat) : String :=
  left ++ middle.intercalate (widths.map fun w => "".pushn (fill.toList.headD '-') (w + 2)) ++ right

/-- A line of text in all columns. -/
def textLine (widths : List Nat) (texts : List String) : String :=
  "|" ++ "|".intercalate (widths.mapIdx fun i w =>
    let text := texts.getD i ""
    " " ++ text ++ "".pushn ' ' (w - text.length) ++ " ") ++ "|"

/-- The lines of a row, as many as its longest cell has. -/
def rowLines (widths : List Nat) (row : List String) : List String :=
  let cells := row.map cellLines
  let height := cells.foldl (fun height lines => max height lines.length) 1
  (List.range height).map fun i => textLine widths (cells.map fun lines => lines.getD i "")

/-- The text of a table, without a line break at its end. -/
def render (t : Table) : String :=
  let widths := t.widths
  let edge := rule "+" "-" "+" "+" widths
  let divider := rule "|" "-" "+" "|" widths
  let body := (t.rows.map (rowLines widths)).intersperse [divider]
  "\n".intercalate
    (edge :: rowLines widths t.header ++ rule "+" "=" "=" "+" widths :: body.flatten ++ [edge])

end Table

end Cutscene.Command
