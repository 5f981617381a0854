import Cutscene.Decimal.Shortest
import Cutscene.Proofs.Decimal.Finite

set_option relaxedAutoImplicit false
set_option autoImplicit false

/-!
# Fractions as floats

A float has 53 bits. A fraction whose denominator is a power of two and whose numerator has no more
bits than that is a float, and a product of two of them is one again if its numerator is not too
large. So such fractions are multiplied without any error.

A quotient is rounded to the nearest float, which may be above it. But a quotient that is not a
whole number is at least one part of the divisor away from the next, and if the dividend is small
this is more than what rounding adds. So rounding never reaches a whole number from below, and the
whole number below the quotient is the one below its float.

## Main definitions

* `Cutscene.Decimal.Binary.nearest` — the whole number nearest to a number, a half rounded up.
* `Cutscene.Decimal.Normalized`, `Cutscene.Decimal.IsNormal` — numbers of 53 bits, and the floats
  that are one.
* `Cutscene.Decimal.IsFraction` — the floats that are a given fraction.

## Main results

* `Cutscene.Decimal.isFraction_toFloat` — whole numbers of sixteen bits are floats.
* `Cutscene.Decimal.IsFraction.mul` — products are exact.
* `Cutscene.Decimal.IsFraction.nearest` — the whole number nearest to a fraction.
* `Cutscene.Decimal.IsFraction.floor_div` — the whole number below a quotient.

## Design

Rounding shifts a number until 53 bits are left and then moves to one of the two neighbours. All
that is needed of it is said twice: where the bits that go are zeros nothing changes
(`roundWithAccuracy_exact`), and otherwise it is off by less than one (`roundWithAccuracy_near`).
-/

namespace Cutscene.Decimal

open Float.Model (UnpackedFloat Format)
open Float.Model.UnpackedFloat

variable {x y : Float} {a b c d m n q s t : ℕ} {e E : ℤ} {sign : Sign} {accuracy : Accuracy}

/-- The whole number nearest to the absolute value, a half rounded up. -/
def Binary.nearest (v : Binary) : ℕ :=
  (2 * (v.mantissa * twoPow v.exponent.toNat) + twoPow (-v.exponent).toNat) /
    (2 * twoPow (-v.exponent).toNat)

/-! ### Normal numbers -/

/-- A number of exactly 53 bits, with an exponent that a float can have. -/
structure Normalized (m : ℕ) (e : ℤ) : Prop where
  /-- There are 53 bits. -/
  le_mantissa : 2 ^ 52 ≤ m
  /-- There are no more. -/
  mantissa_lt : m < 2 ^ 53
  /-- The exponent is not too small. -/
  le_exponent : -1074 ≤ e
  /-- The exponent is not too large. -/
  exponent_le : e ≤ 971

/-- The float is the positive number `m * 2 ^ e`, written with 53 bits. -/
structure IsNormal (x : Float) (m : ℕ) (e : ℤ) : Prop extends Normalized m e where
  /-- It has been packed. -/
  eq_pack : ∃ hpos, x.toModel = .pack (.finite .positive m e hpos)

lemma log2_eq_of_bounds (hle : 2 ^ n ≤ m) (hlt : m < 2 ^ (n + 1)) : m.log2 = n :=
  (Nat.log2_eq_iff (Nat.ne_of_gt (Nat.lt_of_lt_of_le (Nat.two_pow_pos n) hle))).2 ⟨hle, hlt⟩

/-- Packing leaves out the first bit and moves the exponent to positive numbers. -/
lemma Normalized.pack_eq (h : Normalized m e) (hpos : 0 < m) :
    pack .binary64 (.finite sign m e hpos) =
      packComponents .binary64 sign (BitVec.ofNat 11 (e + 1075).toNat) (BitVec.ofNat 52 m) := by
  have hfits : ¬ _ := fun hover => (overflows_iff e).1 hover h.exponent_le
  have hlog : m.log2 + 1 = Format.binary64.mantissaBits :=
    congrArg (· + 1) (log2_eq_of_bounds h.le_mantissa h.mantissa_lt)
  have hsum : e + (1023 : ℕ) + (52 : ℕ) = e + 1075 := by omega
  simp only [pack, if_neg hfits, if_pos hlog]
  change packComponents .binary64 sign (BitVec.ofNat 11 (e + (1023 : ℕ) + (52 : ℕ)).toNat) _ = _
  rw [hsum]

lemma unpackSign_packComponents {spec : Format} {exponent : BitVec spec.exponentBits}
    {mantissa : BitVec spec.mantissaBitsWithoutImplicit} :
    unpackSign (packComponents spec sign exponent mantissa) = sign.toBitVec := by
  ext i hi
  obtain rfl : i = 0 := by omega
  simp [unpackSign, packComponents, BitVec.getLsbD_append, BitVec.getElem_append]

lemma ofBitVec_toBitVec : Sign.ofBitVec sign.toBitVec = sign := by
  cases sign <;> rfl

/-- With the first bit before it, what is packed of the mantissa is the mantissa. -/
lemma toNat_one_append (hle : 2 ^ 52 ≤ m) (hlt : m < 2 ^ 53) :
    (1#1 ++ BitVec.ofNat 52 m).toNat = m := by
  simp only [BitVec.toNat_append, BitVec.toNat_ofNat]
  rw [← Nat.shiftLeft_add_eq_or_of_lt (Nat.mod_lt _ (by decide)), Nat.shiftLeft_eq]
  omega

/-- A normal number is unpacked to what has been packed. -/
lemma Normalized.unpack_pack (h : Normalized m e) (hpos : 0 < m) :
    unpack .binary64 (pack .binary64 (.finite sign m e hpos)) = .finite sign m e hpos := by
  have hlow := h.le_exponent
  have hhigh := h.exponent_le
  have hexponent : (BitVec.ofNat 11 (e + 1075).toNat).toNat = (e + 1075).toNat := by
    rw [BitVec.toNat_ofNat]
    omega
  have hones : BitVec.ofNat 11 (e + 1075).toNat ≠ -1#11 := ofNat_ne_allOnes (by omega)
  have hzero : BitVec.ofNat 11 (e + 1075).toNat ≠ 0#11 := by
    intro heq
    rw [heq, BitVec.toNat_zero] at hexponent
    omega
  rw [h.pack_eq, unpack]
  simp only [unpackMantissa_packComponents, unpackExponent_packComponents,
    unpackSign_packComponents, ofBitVec_toBitVec, hexponent]
  rw [if_neg hones, if_neg hzero]
  congr 1
  · exact toNat_one_append h.le_mantissa h.mantissa_lt
  · change ((e + 1075).toNat : ℤ) - ((1023 : ℕ) + (52 : ℕ)) = e
    omega

lemma IsNormal.unpack_eq (h : IsNormal x m e) :
    ∃ hpos, x.toModel.unpack = .finite .positive m e hpos := by
  obtain ⟨hpos, hpack⟩ := h.eq_pack
  exact ⟨hpos, by rw [hpack]; exact h.unpack_pack hpos⟩

/-- The bits of a positive number are those of its exponent and of its mantissa. -/
lemma toNat_packComponents (h : n < 2 ^ 11) :
    (packComponents .binary64 .positive (BitVec.ofNat 11 n) (BitVec.ofNat 52 m)).toNat =
      n * 2 ^ 52 + m % 2 ^ 52 := by
  change (Sign.positive.toBitVec ++ BitVec.ofNat 11 n ++ BitVec.ofNat 52 m).toNat = _
  simp only [BitVec.toNat_append, BitVec.toNat_ofNat]
  rw [← Nat.shiftLeft_add_eq_or_of_lt (Nat.mod_lt _ (by decide)), Nat.shiftLeft_eq,
    Nat.mod_eq_of_lt h]
  simp [Sign.toBitVec]

/-- The exact value of a normal number. -/
lemma IsNormal.ofFloat?_eq (h : IsNormal x m e) : Binary.ofFloat? x = some ⟨false, m, e⟩ := by
  obtain ⟨hpos, hpack⟩ := h.eq_pack
  have hle := h.le_mantissa
  have hlt := h.mantissa_lt
  have hlow := h.le_exponent
  have hhigh := h.exponent_le
  have hbits : x.toBits.toNat = (e + 1075).toNat * 2 ^ 52 + m % 2 ^ 52 := by
    rw [← toNat_packComponents (by omega), ← h.pack_eq hpos]
    change x.toModel.toBits.toNat = _
    rw [hpack]
    rfl
  simp only [Binary.ofFloat?, twoPow, hbits, Nat.pow_eq]
  -- The bits of the exponent are neither those of the smallest numbers nor those of infinity.
  split
  · omega
  · omega
  · simp only [Option.some.injEq, Binary.mk.injEq, decide_eq_false_iff_not]
    omega

/-! ### Rounding -/

lemma mantissa_shift (n : ℕ) (em : ExtendedMantissa) :
    (em >>> n).mantissa = em.mantissa / 2 ^ n := by
  change (n.repeat ExtendedMantissa.shiftRightOne em).mantissa = _
  induction n with
  | zero => simp [Nat.repeat]
  | succ n ih =>
    rw [Nat.pow_succ, ← Nat.div_div_eq_div_mul, ← ih]
    rfl

/-- Shifting out zeros leaves no bits behind. -/
lemma shift_mul_two_pow (m n : ℕ) :
    (⟨m * 2 ^ n, false, false⟩ : ExtendedMantissa) >>> n = ⟨m, false, false⟩ := by
  change n.repeat ExtendedMantissa.shiftRightOne ⟨m * 2 ^ n, false, false⟩ = _
  induction n generalizing m with
  | zero => simp [Nat.repeat]
  | succ n ih =>
    have hmul : m * 2 ^ (n + 1) = 2 * m * 2 ^ n := by
      ring
    rw [Nat.repeat, hmul, ih]
    simp [ExtendedMantissa.shiftRightOne]

lemma mantissa_ofMantissaAndAccuracy :
    (ExtendedMantissa.ofMantissaAndAccuracy q accuracy).mantissa = q := by
  unfold ExtendedMantissa.ofMantissaAndAccuracy
  split <;> rfl

/-- Rounding moves to one of the two neighbours. -/
lemma le_roundedMantissa (em : ExtendedMantissa) : em.mantissa ≤ em.roundedMantissa := by
  unfold ExtendedMantissa.roundedMantissa Accuracy.roundToNearestEven
  split <;> omega

/-- A number is shifted until 53 bits are left. -/
lemma shiftToTargetExponent_eq (accuracy : Accuracy) (hle : 2 ^ (52 + t) ≤ q)
    (hlt : q < 2 ^ (53 + t)) (hlow : -1074 ≤ E + t) :
    shiftToTargetExponent .binary64 q E accuracy =
      (ExtendedMantissa.ofMantissaAndAccuracy q accuracy >>> t, E + t) := by
  have hlog : q.log2 = 52 + t := log2_eq_of_bounds hle (by convert hlt using 2; omega)
  have hamount :
      (Format.binary64.targetExponent (Float.Model.totalExponent q E) - E).toNat = t := by
    change (max (q.log2 + 1 + E - (53 : ℕ)) (3 - 2 ^ (11 - 1) - (53 : ℕ)) - E).toNat = t
    omega
  simp only [shiftToTargetExponent, shiftToExponent, hamount]

/-- A number of 53 bits is not shifted. -/
lemma shiftToTargetExponent_of_normal (hle : 2 ^ 52 ≤ m) (hlt : m < 2 ^ 53) (hlow : -1074 ≤ e) :
    shiftToTargetExponent .binary64 m e .exact = (⟨m, false, false⟩, e) := by
  have hshift := shiftToTargetExponent_eq (t := 0) .exact hle hlt (by simpa using hlow)
  rwa [Nat.cast_zero, Int.add_zero] at hshift

/-- Rounding is shifting, moving to a neighbour, and shifting again. -/
lemma roundWithAccuracy_of_shifts {first second : ExtendedMantissa} {e₁ e₂ : ℤ}
    (hfirst : shiftToTargetExponent .binary64 q E accuracy = (first, e₁))
    (hround : first.roundedMantissa = n)
    (hsecond : shiftToTargetExponent .binary64 n e₁ .exact = (second, e₂))
    (hmantissa : second.mantissa = m) (hpos : 0 < m) :
    roundWithAccuracy .binary64 sign q E accuracy = .finite sign m e₂ hpos := by
  subst hround hmantissa
  unfold roundWithAccuracy
  simp only [hfirst, hsecond, dif_neg (Nat.ne_of_gt hpos)]

/-- **A number of 53 bits with zeros behind them is not changed by rounding.** -/
lemma roundWithAccuracy_exact (hle : 2 ^ 52 ≤ m) (hlt : m < 2 ^ 53) (hlow : -1074 ≤ E + t)
    (hpos : 0 < m) :
    roundWithAccuracy .binary64 sign (m * 2 ^ t) E .exact = .finite sign m (E + t) hpos := by
  have hfirst := shiftToTargetExponent_eq .exact (q := m * 2 ^ t)
    (by rw [pow_add]; exact Nat.mul_le_mul_right _ hle)
    (by rw [pow_add]; exact Nat.mul_lt_mul_of_pos_right hlt (Nat.two_pow_pos t)) hlow
  rw [ExtendedMantissa.ofMantissaAndAccuracy, shift_mul_two_pow] at hfirst
  exact roundWithAccuracy_of_shifts hfirst rfl (shiftToTargetExponent_of_normal hle hlt hlow) rfl
    hpos

/-- **Rounding a number of more bits moves to one of the two neighbours**, which has one bit more if
it is the next power of two. -/
lemma roundWithAccuracy_near (sign : Sign) (accuracy : Accuracy) (hle : 2 ^ (52 + t) ≤ q)
    (hlt : q < 2 ^ (53 + t)) (hlow : -1074 ≤ E + t) :
    ∃ r carry : ℕ, ∃ hpos, (2 ^ 52 ≤ r ∧ r < 2 ^ 53 ∧ carry ≤ 1) ∧
      (q / 2 ^ t ≤ r * 2 ^ carry ∧ r * 2 ^ carry ≤ q / 2 ^ t + 1) ∧
      roundWithAccuracy .binary64 sign q E accuracy = .finite sign r (E + t + carry) hpos := by
  have hfirst := shiftToTargetExponent_eq accuracy hle hlt hlow
  generalize hem : ExtendedMantissa.ofMantissaAndAccuracy q accuracy >>> t = em at hfirst
  generalize hr : em.roundedMantissa = r
  have hnear : q / 2 ^ t ≤ r ∧ r ≤ q / 2 ^ t + 1 := by
    have hmantissa : em.mantissa = q / 2 ^ t := by
      rw [← hem, mantissa_shift, mantissa_ofMantissaAndAccuracy]
    rw [← hr, ← hmantissa]
    exact ⟨le_roundedMantissa em, roundedMantissa_le em⟩
  have hbits : 2 ^ 52 ≤ q / 2 ^ t ∧ q / 2 ^ t < 2 ^ 53 :=
    ⟨(Nat.le_div_iff_mul_le (Nat.two_pow_pos t)).2 (by rwa [← pow_add]),
      Nat.div_lt_of_lt_mul (by rwa [← pow_add, Nat.add_comm])⟩
  by_cases hcarry : r < 2 ^ 53
  · have hsecond := shiftToTargetExponent_of_normal (m := r) (by omega) hcarry hlow
    have hpos : 0 < r := by omega
    refine ⟨r, 0, hpos, by omega, by omega, ?_⟩
    rw [Nat.cast_zero, Int.add_zero]
    exact roundWithAccuracy_of_shifts hfirst hr hsecond rfl hpos
  · obtain rfl : r = 2 ^ 53 := by omega
    have hsecond := shiftToTargetExponent_eq (t := 1) (q := 2 ^ 53) (E := E + t) .exact
      (by decide) (by decide) (by omega)
    exact ⟨2 ^ 52, 1, by decide, by decide, by omega,
      roundWithAccuracy_of_shifts hfirst hr hsecond rfl (by decide)⟩

/-! ### Fractions -/

/-- The float is the fraction `a / 2 ^ b`, and that is not zero: it is `a` with as many zeros behind
it as 53 bits need. -/
def IsFraction (x : Float) (a b : ℕ) : Prop := ∃ s : ℕ, IsNormal x (a * 2 ^ s) (-b - s)

/-- A number of at most 53 bits, with as many zeros behind it as they need. -/
lemma exists_shift (ha : a ≠ 0) (hlt : a < 2 ^ 53) :
    ∃ s, a.log2 + s = 52 ∧ 2 ^ 52 ≤ a * 2 ^ s ∧ a * 2 ^ s < 2 ^ 53 := by
  have hlog : a.log2 ≤ 52 := Nat.lt_succ_iff.1 ((Nat.log2_lt ha).2 hlt)
  refine ⟨52 - a.log2, Nat.add_sub_cancel' hlog, ?_, ?_⟩
  · calc 2 ^ 52 = 2 ^ a.log2 * 2 ^ (52 - a.log2) := by rw [← pow_add]; congr 1; omega
      _ ≤ a * 2 ^ (52 - a.log2) := Nat.mul_le_mul_right _ (Nat.log2_self_le ha)
  · calc a * 2 ^ (52 - a.log2) < 2 ^ (a.log2 + 1) * 2 ^ (52 - a.log2) :=
          Nat.mul_lt_mul_of_pos_right Nat.lt_log2_self (Nat.two_pow_pos _)
      _ = 2 ^ 53 := by rw [← pow_add]; congr 1; omega

/-- No more zeros than that fit. -/
lemma shift_le (hpos : 0 < a * 2 ^ s) (hlt : a * 2 ^ s < 2 ^ 53) : s ≤ 52 := by
  have hle : 2 ^ s ≤ a * 2 ^ s := Nat.le_mul_of_pos_left _ (Nat.pos_of_mul_pos_right hpos)
  exact Nat.lt_succ_iff.1 ((Nat.pow_lt_pow_iff_right (by decide)).1 (Nat.lt_of_le_of_lt hle hlt))

/-- What is packed as a fraction is one. -/
lemma isFraction_of_eq_pack (hb : b ≤ 1000) (hs : s ≤ 52) (hle : 2 ^ 52 ≤ a * 2 ^ s)
    (hlt : a * 2 ^ s < 2 ^ 53) (hpos : 0 < a * 2 ^ s)
    (h : x.toModel = .pack (.finite .positive (a * 2 ^ s) (-b - s) hpos)) : IsFraction x a b :=
  ⟨s, ⟨hle, hlt, by omega, by omega⟩, hpos, h⟩

/-- A whole number of at most 53 bits is not changed by rounding. -/
lemma round_eq (hle : 2 ^ 52 ≤ a * 2 ^ s) (hlt : a * 2 ^ s < 2 ^ 53) (hlog : a.log2 + s = 52)
    (hpos : 0 < a * 2 ^ s) :
    UnpackedFloat.round .binary64 sign a 0 = .finite sign (a * 2 ^ s) (-(s : ℤ)) hpos := by
  have hamount :
      (0 - Format.binary64.targetExponent (Float.Model.totalExponent a 0)).toNat = s := by
    change (0 - max ((a.log2 : ℤ) + 1 + 0 - (53 : ℕ)) (3 - 2 ^ (11 - 1) - (53 : ℕ))).toNat = s
    omega
  have hexact : roundWithAccuracy .binary64 sign (a * 2 ^ s * 2 ^ 0) (-s) .exact =
      .finite sign (a * 2 ^ s) (-s + (0 : ℕ)) hpos :=
    roundWithAccuracy_exact hle hlt (by omega) hpos
  rw [pow_zero, Nat.mul_one, Nat.cast_zero, Int.add_zero] at hexact
  rw [UnpackedFloat.round, decreaseExponent]
  simp only [hamount]
  rwa [Nat.shiftLeft_eq, Int.zero_sub]

/-- **A whole number of sixteen bits is a float.** -/
theorem isFraction_toFloat {n : UInt16} (hn : n.toNat ≠ 0) : IsFraction n.toFloat n.toNat 0 := by
  obtain ⟨s, hlog, hle, hlt⟩ := exists_shift hn (Nat.lt_trans n.toNat_lt (by decide))
  have hpos : 0 < n.toNat * 2 ^ s := Nat.lt_of_lt_of_le (by decide) hle
  have hgt : compare (n.toNat : ℤ) 0 = .gt := Int.compare_eq_gt.2 (by omega)
  refine isFraction_of_eq_pack (by decide) (by omega) hle hlt hpos ?_
  change Float.Model.pack (UnpackedFloat.normalize .binary64 n.toNat 0 .positive) = _
  simp only [UnpackedFloat.normalize, hgt, Int.toNat_natCast, round_eq hle hlt hlog hpos,
    Nat.cast_zero, Int.neg_zero, Int.zero_sub]

/-- **The product of two fractions is exact** if its numerator has at most 53 bits. -/
theorem IsFraction.mul (hx : IsFraction x a b) (hy : IsFraction y c d) (hac : a * c < 2 ^ 53)
    (hbd : b + d ≤ 1000) : IsFraction (x * y) (a * c) (b + d) := by
  obtain ⟨s₁, hx⟩ := hx
  obtain ⟨s₂, hy⟩ := hy
  obtain ⟨hpos₁, hxeq⟩ := hx.unpack_eq
  obtain ⟨hpos₂, hyeq⟩ := hy.unpack_eq
  have hac₀ : 0 < a * c :=
    Nat.mul_pos (Nat.pos_of_mul_pos_right hpos₁) (Nat.pos_of_mul_pos_right hpos₂)
  obtain ⟨s, hlog, hle, hlt⟩ := exists_shift (Nat.ne_of_gt hac₀) hac
  have hpos : 0 < a * c * 2 ^ s := Nat.lt_of_lt_of_le (by decide) hle
  -- The product of the mantissas has more zeros behind it than 53 bits need.
  have hprod : a * 2 ^ s₁ * (c * 2 ^ s₂) = a * c * 2 ^ (s₁ + s₂) := by ring
  have hshift : s ≤ s₁ + s₂ := by
    have hbig : 2 ^ 52 * 2 ^ 52 ≤ a * c * 2 ^ (s₁ + s₂) :=
      hprod ▸ Nat.mul_le_mul hx.le_mantissa hy.le_mantissa
    have hpow : a * c * 2 ^ s ≤ a * c * 2 ^ (s₁ + s₂) := by omega
    exact (Nat.pow_le_pow_iff_right (by decide)).1 (Nat.le_of_mul_le_mul_left hpow hac₀)
  have hmul : a * 2 ^ s₁ * (c * 2 ^ s₂) = a * c * 2 ^ s * 2 ^ (s₁ + s₂ - s) := by
    rw [hprod, Nat.mul_assoc (a * c), ← pow_add, Nat.add_sub_cancel' hshift]
  have hexponent :
      (-b - s₁ + (-d - s₂) + (s₁ + s₂ - s : ℕ) : ℤ) = -(b + d : ℕ) - s := by omega
  refine isFraction_of_eq_pack hbd (by omega) hle hlt hpos ?_
  change Float.Model.pack (UnpackedFloat.mul .binary64 x.toModel.unpack y.toModel.unpack) = _
  rw [hxeq, hyeq, UnpackedFloat.mul]
  simp only [hmul]
  rw [roundWithAccuracy_exact hle hlt (by omega) hpos, hexponent]
  rfl

/-- The whole number nearest to a fraction. -/
lemma IsFraction.nearest (h : IsFraction x a b) :
    ∃ v, Binary.ofFloat? x = some v ∧ v.negative = false ∧
      v.nearest = (2 * a + 2 ^ b) / (2 * 2 ^ b) := by
  obtain ⟨s, h⟩ := h
  refine ⟨_, h.ofFloat?_eq, rfl, ?_⟩
  have hnum : (-b - s : ℤ).toNat = 0 := by omega
  have hden : (-(-b - s) : ℤ).toNat = b + s := by omega
  simp only [Binary.nearest, hnum, hden, twoPow, Nat.pow_eq]
  calc (2 * (a * 2 ^ s * 2 ^ 0) + 2 ^ (b + s)) / (2 * 2 ^ (b + s))
      = (2 * a + 2 ^ b) * 2 ^ s / (2 * 2 ^ b * 2 ^ s) := by congr 1 <;> ring
    _ = (2 * a + 2 ^ b) / (2 * 2 ^ b) := Nat.mul_div_mul_right _ _ (Nat.two_pow_pos s)

/-! ### Quotients -/

/-- Two numbers of 53 bits are divided with 53 bits more than the exponents ask for. -/
lemma divCore_eq {m₁ m₂ : ℕ} {e₁ e₂ : ℤ} (h₁ : Normalized m₁ e₁) (h₂ : Normalized m₂ e₂)
    (hlow : -1021 ≤ e₁ - e₂) :
    divCore .binary64 m₁ e₁ m₂ e₂ =
      (m₁ * 2 ^ 53 / m₂, e₁ - e₂ - 53, accuracyOfFraction (m₁ * 2 ^ 53 % m₂) m₂) := by
  have htarget : min (e₁ - e₂) (Format.binary64.targetExponent
      (Float.Model.totalExponent m₁ e₁ - Float.Model.totalExponent m₂ e₂)) = e₁ - e₂ - 53 := by
    have hlog₁ : m₁.log2 = 52 := log2_eq_of_bounds h₁.le_mantissa h₁.mantissa_lt
    have hlog₂ : m₂.log2 = 52 := log2_eq_of_bounds h₂.le_mantissa h₂.mantissa_lt
    change min (e₁ - e₂) (max ((m₁.log2 : ℤ) + 1 + e₁ - (m₂.log2 + 1 + e₂) - (53 : ℕ))
      (3 - 2 ^ (11 - 1) - (53 : ℕ))) = e₁ - e₂ - 53
    omega
  have hamount : (e₁ - e₂ - (e₁ - e₂ - 53)).toNat = 53 := by omega
  simp only [divCore, htarget, hamount, Nat.shiftLeft_eq]

/-- Their quotient has 53 or 54 bits. -/
lemma quotient_bounds {m₁ m₂ : ℕ} {e₁ e₂ : ℤ} (h₁ : Normalized m₁ e₁) (h₂ : Normalized m₂ e₂) :
    ∃ t ≤ 1, 2 ^ (52 + t) ≤ m₁ * 2 ^ 53 / m₂ ∧ m₁ * 2 ^ 53 / m₂ < 2 ^ (53 + t) := by
  have hpos : 0 < m₂ := Nat.lt_of_lt_of_le (by decide) h₂.le_mantissa
  have hle : 2 ^ 52 ≤ m₁ * 2 ^ 53 / m₂ := by
    rw [Nat.le_div_iff_mul_le hpos]
    exact Nat.mul_le_mul h₁.le_mantissa h₂.mantissa_lt.le
  have hlt : m₁ * 2 ^ 53 / m₂ < 2 ^ 54 := by
    have hle₂ := h₂.le_mantissa
    have hlt₁ := h₁.mantissa_lt
    rw [Nat.div_lt_iff_lt_mul hpos]
    omega
  by_cases hbits : m₁ * 2 ^ 53 / m₂ < 2 ^ 53
  · exact ⟨0, by decide, hle, hbits⟩
  · exact ⟨1, by decide, by omega, hlt⟩

/-- **A quotient is off by less than one**, counted in its last bit before it is rounded. -/
lemma IsNormal.div {m₁ m₂ : ℕ} {e₁ e₂ : ℤ} (hx : IsNormal x m₁ e₁) (hy : IsNormal y m₂ e₂)
    (hlow : -1021 ≤ e₁ - e₂) (hhigh : e₁ - e₂ ≤ 1000) :
    ∃ t r carry : ℕ, t ≤ 1 ∧ carry ≤ 1 ∧
      (m₁ * 2 ^ 53 / (m₂ * 2 ^ t) ≤ r * 2 ^ carry ∧
        r * 2 ^ carry ≤ m₁ * 2 ^ 53 / (m₂ * 2 ^ t) + 1) ∧
      IsNormal (x / y) r (e₁ - e₂ - 53 + t + carry) := by
  obtain ⟨_, hxeq⟩ := hx.unpack_eq
  obtain ⟨_, hyeq⟩ := hy.unpack_eq
  obtain ⟨t, ht, hle, hlt⟩ := quotient_bounds hx.toNormalized hy.toNormalized
  obtain ⟨r, carry, hpos, ⟨hr, hr', hcarry⟩, hnear, hround⟩ :=
    roundWithAccuracy_near (E := e₁ - e₂ - 53) .positive
      (accuracyOfFraction (m₁ * 2 ^ 53 % m₂) m₂) hle hlt (by omega)
  rw [Nat.div_div_eq_div_mul] at hnear
  refine ⟨t, r, carry, ht, hcarry, hnear, ⟨hr, hr', by omega, by omega⟩, hpos, ?_⟩
  change Float.Model.pack (UnpackedFloat.div .binary64 x.toModel.unpack y.toModel.unpack) = _
  rw [hxeq, hyeq, UnpackedFloat.div]
  simp only [divCore_eq hx.toNormalized hy.toNormalized hlow]
  rw [← hround]
  rfl

/-- The whole number below a number with an exponent that is not positive. -/
lemma floorAt_zero {negative : Bool} {m k w : ℕ} (h : k ≤ w) :
    (⟨negative, m, -w + k⟩ : Binary).floorAt 0 = m * 2 ^ k / 2 ^ w := by
  have hnum : (-w + k : ℤ).toNat = 0 := by omega
  have hden : (-(-w + k) : ℤ).toNat = w - k := by omega
  have hpow : 2 ^ w = 2 ^ (w - k) * 2 ^ k := by rw [← pow_add, Nat.sub_add_cancel h]
  rw [hpow, Nat.mul_div_mul_right _ _ (Nat.two_pow_pos k)]
  simp only [Binary.floorAt, hnum, hden]
  simp [twoPow, tenPow]

/-- A number that is off by less than one part of the divisor has the same whole number below it. -/
lemma div_eq_of_near {n c p k w r : ℕ} (hc : 0 < c) (hk : 0 < k) (hscale : c * p = k * w)
    (hlt : k < p) (hle : n * p / k ≤ r) (hle' : r ≤ n * p / k + 1) : r / w = n / c := by
  refine Nat.div_eq_of_lt_le ?_ ?_
  · refine Nat.le_trans ((Nat.le_div_iff_mul_le hk).2 ?_) hle
    calc n / c * w * k = n / c * c * p := by rw [Nat.mul_assoc, Nat.mul_comm w, ← hscale]; ring
      _ ≤ n * p := Nat.mul_le_mul_right p (Nat.div_mul_le_self n c)
  · refine Nat.lt_of_mul_lt_mul_right (a := k) ?_
    calc r * k ≤ (n * p / k + 1) * k := Nat.mul_le_mul_right k hle'
      _ ≤ n * p + k := by
          rw [Nat.add_mul, Nat.one_mul]
          exact Nat.add_le_add_right (Nat.div_mul_le_self ..) k
      _ < (n + 1) * p := by
          rw [Nat.add_mul, Nat.one_mul]
          exact Nat.add_lt_add_left hlt _
      _ ≤ (n / c + 1) * c * p :=
          Nat.mul_le_mul_right p ((Nat.div_lt_iff_lt_mul hc).1 (Nat.lt_succ_self (n / c)))
      _ = (n / c + 1) * w * k := by rw [Nat.mul_assoc, hscale]; ring

/-- **The whole number below a quotient is the one below its float**, if the dividend is a whole
number and small.

**Proof sketch.** The float is off by less than one, counted in its last bit (`IsNormal.div`). As
the dividend has few bits there are many zeros behind it, so one is less than the part of the
divisor by which a quotient below a whole number is short of it (`div_eq_of_near`). -/
theorem IsFraction.floor_div (hx : IsFraction x a 0) (hy : IsFraction y c d)
    (ha : a * 2 ^ d < 2 ^ 52) (hd : d ≤ 900) :
    ∃ v, Binary.ofFloat? (x / y) = some v ∧ v.negative = false ∧
      v.floorAt 0 = a * 2 ^ d / c := by
  obtain ⟨s₁, hx⟩ := hx
  obtain ⟨s₂, hy⟩ := hy
  have hpos₁ : 0 < a * 2 ^ s₁ := Nat.lt_of_lt_of_le (by decide) hx.le_mantissa
  have hpos₂ : 0 < c * 2 ^ s₂ := Nat.lt_of_lt_of_le (by decide) hy.le_mantissa
  have hle₁ := shift_le hpos₁ hx.mantissa_lt
  have hle₂ := shift_le hpos₂ hy.mantissa_lt
  have hzeros : d < s₁ := by
    have hlt := Nat.lt_of_lt_of_le ha hx.le_mantissa
    exact (Nat.pow_lt_pow_iff_right (by decide)).1 (Nat.lt_of_mul_lt_mul_left hlt)
  obtain ⟨t, r, carry, ht, hcarry, ⟨hnear, hnear'⟩, hquotient⟩ :=
    hx.div hy (by omega) (by omega)
  refine ⟨_, hquotient.ofFloat?_eq, rfl, ?_⟩
  -- Scaled to whole numbers, the quotient is `a * 2 ^ d * p / (c * p)`, and `p` is large.
  have hnum : a * 2 ^ s₁ * 2 ^ 53 = a * 2 ^ d * 2 ^ (s₁ + 53 - d) := by
    rw [Nat.mul_assoc, Nat.mul_assoc, ← pow_add, ← pow_add]
    congr 2
    omega
  have hscale : c * 2 ^ (s₁ + 53 - d) = c * 2 ^ s₂ * 2 ^ t * 2 ^ (s₁ + 53 - d - s₂ - t) := by
    rw [Nat.mul_assoc, Nat.mul_assoc, ← pow_add, ← pow_add]
    congr 2
    omega
  have hlarge : c * 2 ^ s₂ * 2 ^ t < 2 ^ (s₁ + 53 - d) := by
    calc c * 2 ^ s₂ * 2 ^ t < 2 ^ 53 * 2 ^ t :=
          Nat.mul_lt_mul_of_pos_right hy.mantissa_lt (Nat.two_pow_pos t)
      _ ≤ 2 ^ (s₁ + 53 - d) := by
          rw [← pow_add]
          exact Nat.pow_le_pow_right (by decide) (by omega)
  have hexponent : (-(0 : ℕ) - s₁ - (-d - s₂) - 53 + t + carry : ℤ) =
      -(s₁ + 53 - d - s₂ - t : ℕ) + carry := by omega
  rw [hnum] at hnear hnear'
  rw [hexponent, floorAt_zero (by omega)]
  exact div_eq_of_near (Nat.pos_of_mul_pos_right hpos₂) (Nat.mul_pos hpos₂ (Nat.two_pow_pos t))
    hscale hlarge hnear hnear'

end Cutscene.Decimal
