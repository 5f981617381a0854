import Cutscene.Random.Words

set_option relaxedAutoImplicit false
set_option autoImplicit false

/-!
# Random identifiers

A bubble is known by thirty characters drawn from the small letters and the digits. Nothing
checks that two draws differ.

## Main definitions

* `Cutscene.Random.identifier` — an identifier and the stream after it.

## Main results

* `Cutscene.Random.identifier_length` — identifiers have thirty characters.
-/

namespace Cutscene.Random

/-- The characters of identifiers. -/
def alphabet : List Char := "abcdefghijklmnopqrstuvwxyz1234567890".toList

/-- The number of characters of an identifier. -/
def identifierLength : Nat := 30

/-- Characters drawn one after the other. -/
def drawChars : Nat → Source → List Char × Source
  | 0, s => ([], s)
  | count + 1, s =>
    let (i, s) := s.below 36
    let (cs, s) := drawChars count s
    (alphabet.getD i 'a' :: cs, s)

/-- A fresh identifier. -/
def identifier (s : Source) : String × Source :=
  let (cs, s) := drawChars identifierLength s
  (String.ofList cs, s)

theorem drawChars_length (count : Nat) (s : Source) : (drawChars count s).1.length = count := by
  induction count generalizing s with
  | zero => rfl
  | succ count ih => simp [drawChars, ih]

/-- Identifiers have thirty characters. -/
theorem identifier_length (s : Source) : (identifier s).1.length = identifierLength := by
  simp [identifier, drawChars_length]

end Cutscene.Random
