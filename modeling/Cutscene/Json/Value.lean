import Cutscene.Decimal.Layout

set_option relaxedAutoImplicit false
set_option autoImplicit false

/-!
# JSON values

The values of the data format that scripts are written in, and their text, either on one line or
indented by two blanks a level.

## Main definitions

* `Cutscene.Json`, `Cutscene.Json.Number` — values; whole numbers and floats are kept apart.
* `Cutscene.Json.Style` — one line or indented.
* `Cutscene.Json.chars`, `Cutscene.Json.write` — the text of a value.
-/

namespace Cutscene

/-- A number. The two forms stay apart: `1` is whole and `1.0` is a float. -/
inductive Json.Number where
  /-- A whole number. -/
  | whole (n : Int)
  /-- A float. -/
  | real (x : Float)

/-- A JSON value. The members of a record keep their order, and a name may come twice. -/
inductive Json where
  /-- The value `null`. -/
  | null
  /-- `true` or `false`. -/
  | flag (b : Bool)
  /-- A number. -/
  | number (n : Json.Number)
  /-- A text. -/
  | text (s : String)
  /-- A list of values. -/
  | list (items : List Json)
  /-- Named values. -/
  | record (members : List (String × Json))
  deriving Inhabited

namespace Json

/-- A whole number as a value. -/
def whole (n : Int) : Json := .number (.whole n)

/-- A count as a value. -/
def count (n : Nat) : Json := .whole n

/-- The value of something that may be missing: `null` stands for nothing. -/
def optional {α : Type} (f : α → Json) : Option α → Json
  | none => .null
  | some a => f a

/-! ## Text -/

/-- One character of a text. Quotes, backslashes and the characters below the blank are escaped,
the common ones by a letter; everything else stands for itself. -/
def escapedChar (c : Char) : List Char :=
  match c with
  | '"' => ['\\', '"']
  | '\\' => ['\\', '\\']
  | '\x08' => ['\\', 'b']
  | '\x0c' => ['\\', 'f']
  | '\n' => ['\\', 'n']
  | '\r' => ['\\', 'r']
  | '\t' => ['\\', 't']
  | c =>
    if c.toNat < 0x20 then
      ['\\', 'u', '0', '0', Nat.digitChar (c.toNat / 16), Nat.digitChar (c.toNat % 16)]
    else [c]

/-- A text between quotes. -/
def textChars (s : String) : List Char := '"' :: s.toList.flatMap escapedChar ++ ['"']

/-- The text of a number. -/
def Number.chars : Number → List Char
  | .whole n => if n < 0 then '-' :: Nat.toDigits 10 n.natAbs else Nat.toDigits 10 n.natAbs
  | .real x => Decimal.Layout.json.chars x

/-- How a value is spread over lines. -/
inductive Style where
  /-- All on one line, without blanks. -/
  | compact
  /-- Each item and member on a line of its own, two blanks further in than its container. -/
  | indented
  deriving DecidableEq, Repr

/-- What comes before an item at a depth, and before the end of a container. -/
def Style.gap : Style → Nat → List Char
  | .compact, _ => []
  | .indented, depth => '\n' :: List.replicate (2 * depth) ' '

/-- What comes between a name and its value. -/
def Style.afterName : Style → List Char
  | .compact => [':']
  | .indented => [':', ' ']

mutual

/-- The text of a value inside `depth` containers. -/
def chars (style : Style) (depth : Nat) : Json → List Char
  | .null => ['n', 'u', 'l', 'l']
  | .flag true => ['t', 'r', 'u', 'e']
  | .flag false => ['f', 'a', 'l', 's', 'e']
  | .number n => n.chars
  | .text s => textChars s
  | .list [] => ['[', ']']
  | .list (item :: items) =>
    '[' :: style.gap (depth + 1) ++ item.chars style (depth + 1) ++
      (itemsChars style (depth + 1) items ++ (style.gap depth ++ [']']))
  | .record [] => ['\x7b', '\x7d']
  | .record ((name, value) :: members) =>
    '\x7b' :: style.gap (depth + 1) ++ textChars name ++ style.afterName ++
      value.chars style (depth + 1) ++
      (membersChars style (depth + 1) members ++ (style.gap depth ++ ['\x7d']))

/-- The items after the first, each behind a comma. -/
def itemsChars (style : Style) (depth : Nat) : List Json → List Char
  | [] => []
  | item :: items =>
    ',' :: style.gap depth ++ item.chars style depth ++ itemsChars style depth items

/-- The members after the first, each behind a comma. -/
def membersChars (style : Style) (depth : Nat) : List (String × Json) → List Char
  | [] => []
  | (name, value) :: members =>
    ',' :: style.gap depth ++ textChars name ++ style.afterName ++ value.chars style depth ++
      membersChars style depth members

end

/-- The text of a value. -/
def write (style : Style) (value : Json) : String := String.ofList (value.chars style 0)

example : write .compact (.record [("a", .list [.whole 1, .null]), ("b", .text "\n")]) =
    "\x7b\"a\":[1,null],\"b\":\"\\n\"\x7d" := by decide +kernel

end Json

end Cutscene
