import Cutscene.Decimal.Binary

set_option relaxedAutoImplicit false
set_option autoImplicit false

/-!
# The shortest decimal that reads back

A float is written with the fewest digits that read back to it, and of the decimals with that
many digits with the nearest one. The decimals with `n` digits form a grid; the grids for
`n = 1, 2, …, 17` are tried in turn, and on each only the two neighbours of the value count.

## Main definitions

* `Cutscene.Decimal.Digits` — a whole number times a power of ten.
* `Cutscene.Decimal.Tie` — which of two equally near decimals is taken.
* `Cutscene.Decimal.Binary.readsBack` — whether a decimal rounds to the float.
* `Cutscene.Decimal.Binary.shortest` — the shortest decimal.
-/

namespace Cutscene.Decimal

/-- The decimal `digits * 10 ^ exponent`. -/
structure Digits where
  /-- The digits, as a whole number. -/
  digits : Nat
  /-- The power of ten. -/
  exponent : Int
  deriving DecidableEq, Repr

/-- Which of two neighbours on a grid is taken for a value half way between them. -/
inductive Tie where
  /-- The one with an even last digit. -/
  | even
  /-- The larger one. -/
  | up
  deriving DecidableEq, Repr

/-- The neighbour that is taken, `d` or the next. -/
def Tie.settle : Tie → Nat → Nat
  | even, d => if d % 2 = 0 then d else d + 1
  | up, d => d + 1

namespace Binary

/-- Whether `d * 10 ^ p` rounds to the absolute value of `v`. The reals that do so reach half way
to both neighbours; below a power of two the neighbour is only half as far away. The ends of the
interval round to the even mantissa. -/
def readsBack (v : Binary) (p : Int) (d : Nat) : Bool :=
  let below := if v.mantissa = twoPow 52 ∧ -1074 < v.exponent then 1 else 2
  let low := comparePowers d p (4 * v.mantissa - below) (v.exponent - 2)
  let high := comparePowers d p (4 * v.mantissa + 2) (v.exponent - 2)
  let closed := v.mantissa % 2 == 0
  (low == .gt || low == .eq && closed) && (high == .lt || high == .eq && closed)

/-- The whole part of the absolute value divided by `10 ^ p`. -/
def floorAt (v : Binary) (p : Int) : Nat :=
  v.mantissa * twoPow v.exponent.toNat * tenPow (-p).toNat /
    (twoPow (-v.exponent).toNat * tenPow p.toNat)

/-- How many decimal digits a whole number has. -/
def digitCount (n : Nat) : Nat := (Nat.toDigits 10 n).length

/-- The power of ten of the leading digit of a nonzero value. -/
def leading (v : Binary) : Int :=
  let num := v.mantissa * twoPow v.exponent.toNat
  let den := twoPow (-v.exponent).toNat
  if den ≤ num then digitCount (num / den) - 1
  else -(digitCount ((den - 1) / num))

/-- The neighbour of the value on the grid of `10 ^ p` that reads back, the nearer one of two. -/
def onGrid (v : Binary) (tie : Tie) (p : Int) : Option Digits :=
  let d := v.floorAt p
  match v.readsBack p d, v.readsBack p (d + 1) with
  | true, true =>
    match comparePowers (2 * d + 1) p (2 * v.mantissa) v.exponent with
    | .lt => some ⟨d + 1, p⟩
    | .gt => some ⟨d, p⟩
    | .eq => some ⟨tie.settle d, p⟩
  | true, false => some ⟨d, p⟩
  | false, true => some ⟨d + 1, p⟩
  | false, false => none

end Binary

/-- The same decimal without zeros at its end. -/
def Digits.trimmed (d : Digits) : Digits :=
  if h : d.digits ≠ 0 ∧ d.digits % 10 = 0 then
    Digits.trimmed ⟨d.digits / 10, d.exponent + 1⟩
  else d
termination_by d.digits
decreasing_by exact Nat.div_lt_self (Nat.pos_of_ne_zero h.1) (by decide)

/-- The shortest decimal that reads back to a nonzero value. Seventeen digits always suffice. -/
def Binary.shortest (v : Binary) (tie : Tie) : Digits :=
  let first := v.leading
  let found := (List.range 17).findSome? fun (n : Nat) => v.onGrid tie (first - n)
  (found.getD ⟨v.floorAt (first - 16), first - 16⟩).trimmed

end Cutscene.Decimal
