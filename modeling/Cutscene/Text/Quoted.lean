import Cutscene.Text.Printable

set_option relaxedAutoImplicit false
set_option autoImplicit false

/-!
# Quoted text in messages

A text that a message shows between quotes has its quotes, backslashes and common controls
escaped by a letter, and every other character that would not be seen by its code point.

## Main definitions

* `Cutscene.Text.quoted` — the quoted form of a text.
-/

namespace Cutscene.Text

/-- The lower-case hexadecimal digits of a number. -/
def hexDigits (n : Nat) : List Char := Nat.toDigits 16 n

/-- One character as it is written between quotes. -/
def quotedChar (c : Char) : List Char :=
  match c with
  | '\x00' => ['\\', '0']
  | '\t' => ['\\', 't']
  | '\r' => ['\\', 'r']
  | '\n' => ['\\', 'n']
  | '"' => ['\\', '"']
  | '\\' => ['\\', '\\']
  | c =>
    if extendsGrapheme c || isUnprintable c then
      ['\\', 'u', '\x7b'] ++ hexDigits c.toNat ++ ['\x7d']
    else [c]

/-- A text between quotes. -/
def quoted (s : String) : String :=
  String.ofList ('"' :: s.toList.flatMap quotedChar ++ ['"'])

example : quoted "a\"b\n\x7f" = "\"a\\\"b\\n\\u\x7b7f\x7d\"" := by decide +kernel

end Cutscene.Text
