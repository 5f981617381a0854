set_option relaxedAutoImplicit false
set_option autoImplicit false

/-!
# Floats as exact numbers

A finite 64-bit float is a whole number of at most 53 bits times a power of two. Everything that
is written, read or rounded exactly goes through this form, in whole-number arithmetic.

## Main definitions

* `Cutscene.Decimal.twoPow`, `Cutscene.Decimal.tenPow` — powers of two and of ten.
* `Cutscene.Decimal.Binary` — a sign, a mantissa and a power of two.
* `Cutscene.Decimal.Binary.ofFloat?` — the exact value of a float, if it is finite.
* `Cutscene.Decimal.roundDiv` — a quotient rounded to the nearest whole number, ties to even.
* `Cutscene.Decimal.Binary.rounded` — the nearest whole multiple of a fraction of one.

## Main results

* `Cutscene.Decimal.roundDiv_near` — rounding is off by at most half a unit.
-/

namespace Cutscene.Decimal

/-- A power of two. -/
def twoPow (n : Nat) : Nat := Nat.pow 2 n

/-- A power of ten. -/
def tenPow (n : Nat) : Nat := Nat.pow 10 n

/-- The number `mantissa * 2 ^ exponent`, with a sign. -/
structure Binary where
  /-- Whether the sign is minus. -/
  negative : Bool
  /-- The whole factor. -/
  mantissa : Nat
  /-- The power of two. -/
  exponent : Int
  deriving DecidableEq, Repr

/-- The exact value of a float; infinities and not-a-number have none. -/
def Binary.ofFloat? (x : Float) : Option Binary :=
  let bits := x.toBits.toNat
  let negative := decide (twoPow 63 ≤ bits)
  let fraction := bits % twoPow 52
  match bits / twoPow 52 % 2048 with
  | 0 => some ⟨negative, fraction, -1074⟩
  | 2047 => none
  | e => some ⟨negative, fraction + twoPow 52, e - 1075⟩

/-- The quotient rounded to the nearest whole number; a half goes to the even neighbour. -/
def roundDiv (num den : Nat) : Nat :=
  let q := num / den
  let r := num % den
  if 2 * r < den then q
  else if den < 2 * r then q + 1
  else if q % 2 = 0 then q else q + 1

/-- The rounded quotient is within half a unit of the exact one. -/
theorem roundDiv_near (num den : Nat) (h : 0 < den) :
    2 * (roundDiv num den * den) ≤ 2 * num + den ∧
      2 * num ≤ 2 * (roundDiv num den * den) + den := by
  have hdiv := Nat.div_add_mod num den
  have hlt := Nat.mod_lt num h
  have hcomm : num / den * den = den * (num / den) := Nat.mul_comm ..
  have hsucc : (num / den + 1) * den = den * (num / den) + den := by
    rw [Nat.add_mul, hcomm, Nat.one_mul]
  simp only [roundDiv]
  split
  · rw [hcomm]; omega
  · split
    · rw [hsucc]; omega
    · split
      · rw [hcomm]; omega
      · rw [hsucc]; omega

/-- The absolute value counted in units of `1 / perOne`, to the nearest unit. -/
def Binary.rounded (v : Binary) (perOne : Nat) : Nat :=
  roundDiv (v.mantissa * perOne * twoPow v.exponent.toNat) (twoPow (-v.exponent).toNat)

/-- Compares `a * 10 ^ p` with `b * 2 ^ q`. -/
def comparePowers (a : Nat) (p : Int) (b : Nat) (q : Int) : Ordering :=
  compare (a * tenPow p.toNat * twoPow (-q).toNat) (b * twoPow q.toNat * tenPow (-p).toNat)

example : Binary.ofFloat? 1.5 = some ⟨false, 3 * twoPow 51, -52⟩ := by decide +kernel

end Cutscene.Decimal
