set_option relaxedAutoImplicit false
set_option autoImplicit false

/-!
# Blank characters

The characters with the Unicode property White_Space. A speaker's style key leaves them out.

## Main definitions

* `Cutscene.Text.inRanges` — membership in a set of code points given by its ranges.
* `Cutscene.Text.isBlank` — White_Space.
-/

namespace Cutscene.Text

/-- Whether a character's code point lies in one of the ranges, ends included. -/
def inRanges (ranges : List (Nat × Nat)) (c : Char) : Bool :=
  ranges.any fun r => r.1 ≤ c.toNat && c.toNat ≤ r.2

/-- The ranges of White_Space. -/
def blankRanges : List (Nat × Nat) := [
  (0x9, 0xd), (0x20, 0x20), (0x85, 0x85), (0xa0, 0xa0), (0x1680, 0x1680), (0x2000, 0x200a),
  (0x2028, 0x2029), (0x202f, 0x202f), (0x205f, 0x205f), (0x3000, 0x3000)]

/-- Whether a character has the property White_Space. -/
def isBlank (c : Char) : Bool := inRanges blankRanges c

/-- Every blank of the ASCII range is blank. -/
example : " \t\n\r".toList.all isBlank = true := by decide

end Cutscene.Text
