import Cutscene.Decimal.Binary

set_option relaxedAutoImplicit false
set_option autoImplicit false

/-!
# Decimals read as floats

A decimal is read to the nearest float. Decimals too large for any finite float are refused;
those too small for the least one read as zero.

## Main definitions

* `Cutscene.Decimal.toFloat?` — the nearest float of a decimal without a sign.
-/

namespace Cutscene.Decimal

/-- The float nearest to `mantissa * 10 ^ exponent`, unless that is infinite. The two bounds on
the size keep powers of ten small: beyond them the answer is known. -/
def toFloat? (mantissa : Nat) (exponent : Int) : Option Float :=
  let size := (Nat.toDigits 10 mantissa).length + exponent
  if mantissa = 0 then some 0
  else if 310 < size then none
  else if size < -330 then some 0
  else
    let x := Float.ofScientific mantissa (decide (exponent < 0)) exponent.natAbs
    if x.isInf then none else some x

end Cutscene.Decimal
