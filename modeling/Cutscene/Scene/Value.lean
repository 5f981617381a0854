import Cutscene.Json.Reader

set_option relaxedAutoImplicit false
set_option autoImplicit false

/-!
# Display values

What a script can write into a display variable: a truth value, a whole number of 64 bits, a
float or a text. Nothing else is checked; whoever looks at a variable decides what it means, and
for switching something on only its truth counts.

## Main definitions

* `Cutscene.Value` — the values; `Value.isTruthy` and `Value.display` are how they count and how
  they look in a table.
* `Cutscene.Value.toJson`, `Cutscene.Value.read` — values in scripts.
-/

namespace Cutscene

/-- A value of a display variable. -/
inductive Value where
  /-- A truth value. -/
  | flag (b : Bool)
  /-- A whole number. -/
  | whole (n : Int64)
  /-- A float. -/
  | real (x : Float)
  /-- A text. -/
  | text (s : String)
  deriving BEq

namespace Value

/-- Whether a value switches something on: `false`, zero, not-a-number and the empty text do
not. -/
def isTruthy : Value → Bool
  | .flag b => b
  | .whole n => n != 0
  | .real x => x != 0 && !x.isNaN
  | .text s => !s.isEmpty

/-- The text of a value in a table. Texts stand between quotes as they are. -/
def display : Value → String
  | .flag b => if b then "true" else "false"
  | .whole n => toString n.toInt
  | .real x => Decimal.Layout.plain.format x
  | .text s => "\"" ++ s ++ "\""

/-- A value in JSON. -/
def toJson : Value → Json
  | .flag b => .flag b
  | .whole n => .whole n.toInt
  | .real x => .number (.real x)
  | .text s => .text s

/-- A whole number as a value: a float where 64 bits with a sign do not hold it. -/
def ofInt (n : Int) : Value :=
  if -9223372036854775808 ≤ n ∧ n < 9223372036854775808 then .whole (Int64.ofInt n)
  else if n < 0 then .real (-(UInt64.ofNat n.natAbs).toFloat)
  else .real (UInt64.ofNat n.natAbs).toFloat

/-- The value of a JSON value, if it has one. -/
def ofJson? : Json → Option Value
  | .flag b => some (.flag b)
  | .number (.whole n) => some (ofInt n)
  | .number (.real x) => some (.real x)
  | .text s => some (.text s)
  | _ => none

/-- Reads a value inside `depth` containers. Lists and records are read to their end before they
are refused. -/
def read (depth : Nat) : Json.Reader Value := fun o => do
  match ofJson? (← Json.orFault (o.value depth)) with
  | some v => return v
  | none => .error (.mismatch (.noForm "DisplayValue"))

end Value

end Cutscene
