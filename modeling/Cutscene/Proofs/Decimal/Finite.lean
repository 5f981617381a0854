import Mathlib
import Cutscene.Decimal.Reading

set_option relaxedAutoImplicit false
set_option autoImplicit false

/-!
# Finite floats

What is read from a decimal is finite, since decimals too large for any finite float are refused.
So are the nearest floats of whole numbers of 64 bits, and the negatives of finite floats.

Operations on floats unpack, compute and pack again. Packing keeps a number finite if its exponent
fits the format, and makes no number not-a-number.

## Main definitions

* `Cutscene.Decimal.Fits` — an unpacked float that is still finite when it has been packed.

## Main results

* `Cutscene.Decimal.isFinite_of_toFloat?` — what is read is finite.
* `Cutscene.Decimal.isFinite_toFloat` — a whole number of 64 bits has a finite float.
* `Cutscene.Decimal.isFinite_neg` — the negative of a finite float is finite.
-/

namespace Cutscene.Decimal

open Float.Model (UnpackedFloat Format)
open Float.Model.UnpackedFloat

/-! ## Packing -/

section Packing

variable {u : UnpackedFloat}

/-- An unpacked float that is finite and whose exponent does not overflow. -/
def Fits : UnpackedFloat → Prop
  | .notANumber | .infinity _ => False
  | .zero _ => True
  | .finite _ _ exponent _ => exponent ≤ 971

lemma isNaN_of_isFinite (h : u.isFinite = true) : u.isNaN = false := by
  cases u <;> first | rfl | cases h

/-- Whether packed components are those of a finite number shows in the exponent. -/
lemma isFinite_unpack_packComponents {sign : Sign} {exponent : BitVec 11} {mantissa : BitVec 52}
    (h : exponent ≠ -1#11) :
    (unpack .binary64 (packComponents .binary64 sign exponent mantissa)).isFinite = true := by
  rw [unpack]
  simp only [unpackMantissa_packComponents, unpackExponent_packComponents]
  rw [if_neg h]
  split
  · split <;> rfl
  · rfl

/-- Where the biased exponent does not overflow, it is not the one of infinity. -/
lemma ofNat_ne_allOnes {n : ℕ} (h : ¬ 2 ^ 11 ≤ n + 1) : BitVec.ofNat 11 n ≠ -1#11 := by
  intro heq
  have hnat := congrArg BitVec.toNat heq
  simp [BitVec.toNat_ofNat] at hnat
  omega

/-- When packing overflows. -/
lemma overflows_iff (exponent : ℤ) :
    2 ^ Format.binary64.exponentBits ≤ (exponent + Format.binary64.exponentBias +
      Format.binary64.mantissaBitsWithoutImplicit).toNat + 1 ↔ ¬ exponent ≤ 971 := by
  change 2 ^ 11 ≤ (exponent + (2 ^ (11 - 1) - 1 : ℕ) + (52 : ℕ)).toNat + 1 ↔ _
  omega

/-- The packed form of a float with a fitting exponent is finite. -/
lemma isFinite_pack (h : Fits u) : (Float.Model.pack u).isFinite = true := by
  change (unpack .binary64 (pack .binary64 u)).isFinite = true
  cases u with
  | notANumber => exact absurd h id
  | infinity sign => exact absurd h id
  | zero sign => exact isFinite_unpack_packComponents (by decide)
  | finite sign mantissa exponent hpos =>
    have hfits : ¬ _ := fun hover => (overflows_iff exponent).1 hover h
    simp only [pack, if_neg hfits]
    split
    · exact isFinite_unpack_packComponents (ofNat_ne_allOnes hfits)
    · exact isFinite_unpack_packComponents (by decide)

/-- Packing makes no number not-a-number. -/
lemma isNaN_pack (h : u.isNaN = false) : (Float.Model.pack u).isNaN = false := by
  have hinfinity : ∀ sign, (unpack .binary64 (packedInfinity .binary64 sign)).isNaN = false := by
    intro sign
    cases sign <;> decide
  by_cases hfits : Fits u
  · exact isNaN_of_isFinite (isFinite_pack hfits)
  · change (unpack .binary64 (pack .binary64 u)).isNaN = false
    cases u with
    | notANumber => cases h
    | infinity sign => exact hinfinity sign
    | zero sign => exact absurd trivial hfits
    | finite sign mantissa exponent hpos =>
      simp only [pack, if_pos ((overflows_iff exponent).2 hfits)]
      exact hinfinity sign

/-- What a finite float unpacks to fits. -/
lemma fits_unpack {b : BitVec Format.binary64.numBits} (h : (unpack .binary64 b).isFinite = true) :
    Fits (unpack .binary64 b) := by
  have hlt : (unpackExponent b).toNat < 2 ^ 11 := (unpackExponent b).isLt
  have hbias : (Format.binary64.exponentBias : ℤ) = 1023 := rfl
  have hbits : (Format.binary64.mantissaBitsWithoutImplicit : ℤ) = 52 := rfl
  rw [unpack] at h ⊢
  split
  · rename_i hones
    simp only [hones, if_true] at h
    split at h <;> cases h
  · rename_i hones
    -- The exponent of infinity is excluded, and numbers below the normal ones have the least one.
    have hne : (unpackExponent b).toNat ≠ 2 ^ 11 - 1 := by
      intro heq
      exact hones (BitVec.eq_of_toNat_eq heq)
    split
    · rename_i hzero
      split
      · trivial
      · change _ ≤ (971 : ℤ)
        rw [hzero, hbias, hbits]
        decide
    · change _ ≤ (971 : ℤ)
      rw [hbias, hbits]
      omega

/-- Whether a float fits does not depend on its sign. -/
lemma fits_neg (h : Fits u) : Fits u.neg := by
  cases u <;> exact h

end Packing

/-- **The negative of a finite float is finite.** -/
theorem isFinite_neg {x : Float} (h : x.isFinite = true) : (-x).isFinite = true :=
  isFinite_pack (fits_neg (fits_unpack h))

/-- A float that is a number and not infinite is finite. -/
lemma isFinite_of_not_isInf {x : Float} (hnan : x.isNaN = false) (hinf : ¬ x.isInf = true) :
    x.isFinite = true := by
  change x.toModel.unpack.isNaN = false at hnan
  change ¬ x.toModel.unpack.isInf = true at hinf
  change x.toModel.unpack.isFinite = true
  generalize x.toModel.unpack = u at hnan hinf ⊢
  cases u with
  | notANumber => cases hnan
  | infinity sign => exact absurd rfl hinf
  | zero | finite => rfl

/-! ## Rounding -/

section Rounding

variable {sign : Sign} {mantissa : ℕ} {exponent : ℤ} {accuracy : Accuracy}

/-- Rounding gives zero or a finite number, which may overflow when it is packed. -/
lemma isFinite_roundWithAccuracy (spec : Format) :
    (roundWithAccuracy spec sign mantissa exponent accuracy).isFinite = true := by
  unfold roundWithAccuracy
  cases shiftToTargetExponent spec mantissa exponent accuracy with
  | mk em₁ e₁ =>
    simp only
    split <;> rfl

/-- Shifting drops bits of the mantissa. -/
lemma mantissa_shift_le (n : ℕ) (em : ExtendedMantissa) : (em >>> n).mantissa ≤ em.mantissa := by
  change (n.repeat ExtendedMantissa.shiftRightOne em).mantissa ≤ _
  induction n with
  | zero => exact Nat.le_refl _
  | succ n ih => exact Nat.le_trans (Nat.div_le_self _ 2) ih

lemma roundedMantissa_le (em : ExtendedMantissa) : em.roundedMantissa ≤ em.mantissa + 1 := by
  unfold ExtendedMantissa.roundedMantissa Accuracy.roundToNearestEven
  split <;> omega

lemma mantissa_shiftToTargetExponent_le :
    (shiftToTargetExponent .binary64 mantissa exponent accuracy).1.mantissa ≤ mantissa := by
  refine Nat.le_trans (mantissa_shift_le _ _) ?_
  unfold ExtendedMantissa.ofMantissaAndAccuracy
  split <;> exact Nat.le_refl _

/-- The target exponent is not above the one of the leading bit, unless that is below all others. -/
lemma exponent_shiftToTargetExponent_le {bound : ℤ} (hlow : -1074 ≤ bound)
    (hleading : mantissa.log2 + exponent ≤ bound) :
    (shiftToTargetExponent .binary64 mantissa exponent accuracy).2 ≤ bound := by
  change exponent + ((max (mantissa.log2 + 1 + exponent - (53 : ℕ)) (3 - 2 ^ (11 - 1) - (53 : ℕ)) -
    exponent).toNat : ℤ) ≤ bound
  omega

/-- A rounded number fits unless it is large. -/
lemma fits_roundWithAccuracy {bits : ℕ} (hmantissa : mantissa + 1 < 2 ^ bits) (hbits : bits < 400)
    (hexponent : exponent ≤ 0) :
    Fits (roundWithAccuracy .binary64 sign mantissa exponent accuracy) := by
  have hlog : ∀ m, m ≤ mantissa + 1 → m.log2 ≤ bits := by
    intro m hm
    by_cases hzero : m = 0
    · subst hzero
      simp
    · exact Nat.le_of_lt ((Nat.log2_lt hzero).2 (Nat.lt_of_le_of_lt hm hmantissa))
  have hlogMantissa := hlog mantissa (Nat.le_succ _)
  have hfirst := @mantissa_shiftToTargetExponent_le mantissa exponent accuracy
  have hfirst' := @exponent_shiftToTargetExponent_le mantissa exponent accuracy bits
    (by omega) (by omega)
  unfold roundWithAccuracy
  -- Rounding up may carry into one bit more, so the mantissa is shifted a second time.
  cases hshift : shiftToTargetExponent .binary64 mantissa exponent accuracy with
  | mk em₁ e₁ =>
    simp only [hshift] at hfirst hfirst'
    have hrounded := hlog em₁.roundedMantissa
      (Nat.le_trans (roundedMantissa_le em₁) (Nat.succ_le_succ hfirst))
    have hsecond := @exponent_shiftToTargetExponent_le em₁.roundedMantissa e₁ .exact 971
      (by decide) (by omega)
    simp only
    split
    · trivial
    · exact hsecond

/-- A whole number of 64 bits rounds to a number that fits. -/
lemma fits_round {n : ℕ} (h : n < 2 ^ 64) : Fits (UnpackedFloat.round .binary64 sign n 0) := by
  have hshift :
      (0 - Format.binary64.targetExponent (Float.Model.totalExponent n 0)).toNat ≤ 52 := by
    change (0 - max ((n.log2 : ℤ) + 1 + 0 - (53 : ℕ)) (3 - 2 ^ (11 - 1) - (53 : ℕ))).toNat ≤ 52
    omega
  have hmantissa : ∀ shift ≤ 52, n <<< shift + 1 < 2 ^ 117 := by
    intro shift hle
    have hpow : 2 ^ shift ≤ 2 ^ 52 := Nat.pow_le_pow_right (by decide) hle
    have hmul : n * 2 ^ shift ≤ 2 ^ 64 * 2 ^ 52 := Nat.mul_le_mul (Nat.le_of_lt h) hpow
    rw [Nat.shiftLeft_eq]
    omega
  exact fits_roundWithAccuracy (hmantissa _ hshift) (by decide) (by omega)

/-- **A whole number of 64 bits has a finite float.** -/
theorem isFinite_toFloat (n : UInt64) : n.toFloat.isFinite = true := by
  refine isFinite_pack ?_
  change Fits (UnpackedFloat.normalize .binary64 n.toNat 0 .positive)
  unfold UnpackedFloat.normalize
  split
  · rename_i hneg
    rw [Int.compare_eq_lt] at hneg
    omega
  · trivial
  · exact fits_round n.toNat_lt

end Rounding

/-! ## Reading -/

section Reading

variable {u v : UnpackedFloat}

/-- An unpacked float that is a finite number other than zero. -/
def isNonzero : UnpackedFloat → Bool
  | .finite _ _ _ _ => true
  | .notANumber | .infinity _ | .zero _ => false

/-- A product by a finite number other than zero is a number. -/
lemma isNaN_mul (spec : Format) (hu : u.isNaN = false) (hv : isNonzero v = true) :
    (mul spec u v).isNaN = false := by
  cases v with
  | notANumber | infinity | zero => cases hv
  | finite =>
    cases u with
    | notANumber => cases hu
    | infinity | zero => rfl
    | finite => exact isNaN_of_isFinite (isFinite_roundWithAccuracy spec)

/-- A quotient by a finite number other than zero is a number. -/
lemma isNaN_div (spec : Format) (hu : u.isNaN = false) (hv : isNonzero v = true) :
    (div spec u v).isNaN = false := by
  cases v with
  | notANumber | infinity | zero => cases hv
  | finite =>
    cases u with
    | notANumber => cases hu
    | infinity | zero => rfl
    | finite => exact isNaN_of_isFinite (isFinite_roundWithAccuracy spec)

/-- The powers of ten that are floats are finite and not zero. -/
lemma isNonzero_power : ∀ e : Fin Float.exactlyRepresentablePowersOfTen.size,
    isNonzero Float.exactlyRepresentablePowersOfTen[e].toModel.unpack = true := by
  decide +kernel

/-- A whole number times a power of ten is a number. -/
lemma isNaN_scaled (spec : Format) (m : ℕ) (e : ℤ) : (ofScientific spec m e).isNaN = false := by
  unfold ofScientific
  split
  · rfl
  split
  · rfl
  split
  · rfl
  split
  · exact isNaN_mul spec rfl rfl
  · exact isNaN_div spec rfl rfl

/-- A decimal has a nearest float, which may be infinite. -/
lemma isNaN_ofScientific (m : ℕ) (s : Bool) (e : ℕ) : (Float.ofScientific m s e).isNaN = false := by
  have hwhole : m.toUInt64.toFloat.toModel.unpack.isNaN = false :=
    isNaN_of_isFinite (isFinite_toFloat m.toUInt64)
  unfold Float.ofScientific
  split
  -- Few digits and a small power of ten are multiplied or divided as floats, all else exactly.
  · rename_i hfast
    have hpower := isNonzero_power ⟨e, by simp [Float.exactlyRepresentablePowersOfTen]; omega⟩
    simp only
    split
    · exact isNaN_pack (isNaN_div .binary64 hwhole hpower)
    · exact isNaN_pack (isNaN_mul .binary64 hwhole hpower)
  · exact isNaN_pack (isNaN_scaled .binary64 m _)

/-- **What is read from a decimal is finite.** -/
theorem isFinite_of_toFloat? {m : ℕ} {e : ℤ} {x : Float} (h : toFloat? m e = some x) :
    x.isFinite = true := by
  unfold toFloat? at h
  simp only at h
  split at h
  · cases h
    decide +kernel
  split at h
  · cases h
  split at h
  · cases h
    decide +kernel
  split at h
  · cases h
  · rename_i hinf
    cases h
    exact isFinite_of_not_isInf (isNaN_ofScientific m _ _) hinf

end Reading

end Cutscene.Decimal
