import Cutscene.Decimal.Shortest

set_option relaxedAutoImplicit false
set_option autoImplicit false

/-!
# Layouts of decimal numbers

The digits of a float are the shortest that read back. A layout says which of two such decimals
is taken, and how the digits are put on the line: which sizes are written with an exponent,
whether a whole number keeps a point, and what stands for the values that are no numbers.

## Main definitions

* `Cutscene.Decimal.Layout` — the decisions of a format.
* `Cutscene.Decimal.Layout.chars` — a float in a layout.
* `Cutscene.Decimal.Layout.plain`, `Cutscene.Decimal.Layout.json` — the two layouts in use.
* `Cutscene.Decimal.fixed` — a float with a fixed number of places.
-/

namespace Cutscene.Decimal

/-- How numbers are laid out. -/
structure Layout where
  /-- Least power of ten of a leading digit that is written without an exponent, and the least
  one above it that is not; without bounds nothing gets an exponent. -/
  positional : Option (Int × Int)
  /-- Whether a whole number written without an exponent ends in `.0`. -/
  keepsPoint : Bool
  /-- Which of two equally near shortest decimals is written. -/
  tie : Tie
  /-- What stands for not-a-number. -/
  notANumber : String
  /-- What stands for infinity. -/
  infinity : String
  /-- What stands for minus infinity. -/
  minusInfinity : String

/-- Digits with the point in its place. -/
def positionalChars (keepsPoint : Bool) (ds : List Char) (exponent : Int) : List Char :=
  if 0 ≤ exponent then
    ds ++ List.replicate exponent.toNat '0' ++ (if keepsPoint then ['.', '0'] else [])
  else
    let places := (-exponent).toNat
    if places < ds.length then
      ds.take (ds.length - places) ++ '.' :: ds.drop (ds.length - places)
    else
      '0' :: '.' :: List.replicate (places - ds.length) '0' ++ ds

/-- Digits with the point after the first one and a power of ten behind, whose sign is always
written. -/
def scientificChars (ds : List Char) (power : Int) : List Char :=
  let significand := match ds with
    | d :: e :: rest => d :: '.' :: e :: rest
    | ds => ds
  significand ++ 'e' :: (if 0 ≤ power then '+' else '-') :: Nat.toDigits 10 power.natAbs

/-- A decimal without its sign. -/
def Layout.digitsChars (l : Layout) (d : Digits) : List Char :=
  let ds := Nat.toDigits 10 d.digits
  let power := ds.length + d.exponent - 1
  match l.positional with
  | some (low, high) =>
    if low ≤ power ∧ power < high then positionalChars l.keepsPoint ds d.exponent
    else scientificChars ds power
  | none => positionalChars l.keepsPoint ds d.exponent

/-- A float in a layout. Zero keeps its sign. -/
def Layout.chars (l : Layout) (x : Float) : List Char :=
  match Binary.ofFloat? x with
  | some v =>
    let ds :=
      if v.mantissa = 0 then positionalChars l.keepsPoint ['0'] 0
      else l.digitsChars (v.shortest l.tie)
    if v.negative then '-' :: ds else ds
  | none =>
    (if x.isNaN then l.notANumber else if x < 0 then l.minusInfinity else l.infinity).toList

/-- A float in a layout, as a string. -/
def Layout.format (l : Layout) (x : Float) : String := String.ofList (l.chars x)

/-- Numbers on their own: never an exponent, no point after a whole number, and the larger of two
equally near decimals. -/
def Layout.plain : Layout where
  positional := none
  keepsPoint := false
  tie := .up
  notANumber := "NaN"
  infinity := "inf"
  minusInfinity := "-inf"

/-- Numbers in JSON: an exponent below `1e-5` and from `1e16` on, `.0` after a whole number, the
even one of two equally near decimals, and `null` for what JSON has no number for. -/
def Layout.json : Layout where
  positional := some (-5, 16)
  keepsPoint := true
  tie := .even
  notANumber := "null"
  infinity := "null"
  minusInfinity := "null"

/-- A count of units of `10 ^ -places`, written with that many places. -/
def fixedChars (places units : Nat) : List Char :=
  let ds := Nat.toDigits 10 units
  let ds := List.replicate (places + 1 - ds.length) '0' ++ ds
  ds.take (ds.length - places) ++ (if places = 0 then [] else '.' :: ds.drop (ds.length - places))

/-- A finite float with a fixed number of places. The exact value is rounded, a half to the even
neighbour. -/
def fixed (places : Nat) (x : Float) : String :=
  match Binary.ofFloat? x with
  | some v =>
    let ds := fixedChars places (v.rounded (tenPow places))
    String.ofList (if v.negative then '-' :: ds else ds)
  | none => Layout.plain.format x

example : Layout.plain.format 1e21 = "1000000000000000000000" := by decide +kernel
example : Layout.plain.format 1e-7 = "0.0000001" := by decide +kernel
example : Layout.json.format 100.0 = "100.0" ∧ Layout.json.format 1e16 = "1e+16" := by
  decide +kernel
example : Layout.json.format (-0.0) = "-0.0" ∧ Layout.json.format 2.5e-7 = "2.5e-7" := by
  decide +kernel
example : Layout.plain.format 1807743426396121.25 = "1807743426396121.3" ∧
    Layout.json.format 1807743426396121.25 = "1807743426396121.2" := by decide +kernel
example : fixed 1 1.25 = "1.2" ∧ fixed 1 0.04 = "0.0" := by decide +kernel

end Cutscene.Decimal
