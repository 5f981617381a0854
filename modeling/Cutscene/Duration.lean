import Cutscene.Decimal.Binary

set_option relaxedAutoImplicit false
set_option autoImplicit false

/-!
# Durations

A duration is a whole number of nanoseconds whose whole seconds fit 64 bits. Sums and multiples
can leave that range; whoever computes one says what happens then.

## Main definitions

* `Cutscene.Duration` — a number of nanoseconds with its bound.
* `Cutscene.Duration.add?`, `Cutscene.Duration.sum?` — sums, if they fit.
* `Cutscene.Duration.times` — a multiple, cut off at the longest duration.
* `Cutscene.Duration.scaled?` — a duration times a float, if that is a duration.

## Main results

* `Cutscene.Duration.sum?_eq_some_iff` — a sum exists exactly if the total fits.
-/

namespace Cutscene

/-- How many nanoseconds make a second. -/
def Duration.perSecond : Nat := 1000000000

/-- The longest duration in nanoseconds: one short of `2 ^ 64` seconds. -/
def Duration.limit : Nat := UInt64.size * Duration.perSecond - 1

/-- A span of time in whole nanoseconds. -/
structure Duration where
  /-- The nanoseconds. -/
  nanos : Nat
  /-- The whole seconds fit 64 bits. -/
  bounded : nanos ≤ Duration.limit
  deriving DecidableEq

namespace Duration

/-- No time at all. -/
def zero : Duration := ⟨0, Nat.zero_le _⟩

instance : Inhabited Duration := ⟨zero⟩

/-- The longest duration. -/
def longest : Duration := ⟨limit, Nat.le_refl _⟩

/-- Every 64-bit number of milliseconds is a duration. -/
def ofMillis (millis : UInt64) : Duration :=
  ⟨millis.toNat * 1000000, by have := millis.toNat_lt; unfold limit perSecond UInt64.size; omega⟩

/-- A number of nanoseconds as a duration, if it fits. -/
def ofNanos? (nanos : Nat) : Option Duration :=
  if h : nanos ≤ limit then some ⟨nanos, h⟩ else none

/-- The sum of two durations, if it fits. -/
def add? (a b : Duration) : Option Duration := ofNanos? (a.nanos + b.nanos)

/-- The sum of durations from left to right, if every partial sum fits. -/
def sum? (ds : List Duration) : Option Duration :=
  ds.foldlM add? zero

/-- A duration taken `n` times, and the longest duration where that is too long. -/
def times (d : Duration) (n : Nat) : Duration :=
  ⟨min (d.nanos * n) limit, Nat.min_le_right ..⟩

/-- The length in seconds as a float: the seconds and the nanoseconds beyond them are converted
on their own and then added. -/
def seconds (d : Duration) : Float :=
  (d.nanos / perSecond).toUInt64.toFloat + (d.nanos % perSecond).toUInt64.toFloat / 1e9

/-- The nanosecond nearest to a number of seconds, unless it is negative or there are `2 ^ 64`
seconds or more. -/
def ofSeconds? (x : Float) : Option Duration :=
  if 0.0 ≤ x ∧ x < 18446744073709551616.0 then
    (Decimal.Binary.ofFloat? x).bind fun v => ofNanos? (v.rounded perSecond)
  else none

/-- A duration times a scale, if there is such a duration. The scale one leaves it exact. -/
def scaled? (d : Duration) (scale : Float) : Option Duration :=
  if scale == 1.0 then some d else ofSeconds? (scale * d.seconds)

/-- Half a second is exact; what is negative, too long or not a number is no duration. -/
example : (ofSeconds? 0.5).map nanos = some 500000000 ∧ ofSeconds? (-0.5) = none ∧
    ofSeconds? 1e300 = none ∧ ofSeconds? (0.0 / 0.0) = none := by
  decide +kernel

/-! ## Sums -/

theorem ofNanos?_eq_some_iff {n : Nat} {d : Duration} : ofNanos? n = some d ↔ d.nanos = n := by
  unfold ofNanos?
  split
  · exact ⟨fun h => by cases h; rfl, fun h => by cases d; simp_all⟩
  · rename_i h
    exact ⟨fun e => by simp at e, fun e => absurd (e ▸ d.bounded) h⟩

/-- The total of a list in nanoseconds. -/
def total (ds : List Duration) : Nat := ds.foldr (fun d n => d.nanos + n) 0

theorem foldlM_add?_eq_some_iff {ds : List Duration} {a d : Duration} :
    ds.foldlM add? a = some d ↔ d.nanos = a.nanos + total ds := by
  induction ds generalizing a with
  | nil =>
    simp only [List.foldlM_nil, Option.pure_def, Option.some.injEq, total, List.foldr_nil,
      Nat.add_zero]
    exact ⟨fun h => h ▸ rfl, fun h => by cases a; cases d; simp_all⟩
  | cons b ds ih =>
    simp only [List.foldlM_cons, Option.bind_eq_bind, Option.bind_eq_some_iff]
    constructor
    · rintro ⟨c, hc, hd⟩
      rw [ih.1 hd, ofNanos?_eq_some_iff.1 hc]
      simp [total]; omega
    · intro h
      have hb := d.bounded
      have htot : total (b :: ds) = b.nanos + total ds := by simp [total]
      have hle : a.nanos + b.nanos ≤ limit := by omega
      refine ⟨⟨a.nanos + b.nanos, hle⟩, ofNanos?_eq_some_iff.2 rfl, ih.2 ?_⟩
      simp only; omega

/-- A sum of durations exists exactly if it is the total. -/
theorem sum?_eq_some_iff {ds : List Duration} {d : Duration} :
    sum? ds = some d ↔ d.nanos = total ds := by
  simp [sum?, foldlM_add?_eq_some_iff, zero]

end Duration

end Cutscene
