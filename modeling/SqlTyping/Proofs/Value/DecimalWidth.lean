import Mathlib.Algebra.Order.Field.Power
import Mathlib.Data.Rat.Floor
import SqlTyping.Proofs.Unification.Capacity

/-!
# Values that fit a DECIMAL type

A DECIMAL type of precision `p` and scale `s` holds the whole multiples of `10 ^ (-s)` below
`10 ^ (p - s)`. A number is brought to such a multiple by rounding, a half away from zero, and the
limit is applied to the rounded number: `999.995` is below `10 ^ 3` but does not fit DECIMAL(5,2).

The rounding is done on the coefficient alone, in whole numbers. It appends zeros if the number has
fewer places than the scale (`round_append_zeros`), and divides by a power of ten if it has more
(`round_eq_divideRounding`). Both are the rounding of the rational number that the decimal stands
for, so that the exact condition can be stated on that number (`fit?_eq`).
-/

namespace SqlTyping

/-! ## Rounding -/

/-- A number rounded to the nearest whole number, a half away from zero. -/
def roundAway (x : ℚ) : ℤ :=
  if x < 0 then -round (-x) else round x

/-- The sign of a number does not matter for the size of what it is rounded to. -/
lemma natAbs_roundAway (x : ℚ) : ((roundAway x).natAbs : ℤ) = round |x| := by
  have hnonneg : ∀ y : ℚ, 0 ≤ y → 0 ≤ round y := by
    intro y hy
    rw [round_eq, Int.floor_nonneg]
    positivity
  unfold roundAway
  split
  · next hx =>
    rw [abs_of_neg hx, Int.natAbs_neg]
    exact Int.natAbs_of_nonneg (hnonneg _ (by linarith))
  · next hx =>
    rw [not_lt] at hx
    rw [abs_of_nonneg hx]
    exact Int.natAbs_of_nonneg (hnonneg x hx)

namespace Decimal

/-- Numbers far below the half are not divided, but the quotient would be the same. -/
lemma divideRounding_eq (n k : Nat) :
    divideRounding n k = (2 * n + 10 ^ k) / (2 * 10 ^ k) := by
  unfold divideRounding
  split
  · next hfar =>
    have hsmall : 2 * n < 10 ^ k := by
      calc
        2 * n < 2 * 2 ^ (n.log2 + 1) := Nat.mul_lt_mul_of_pos_left Nat.lt_log2_self (by decide)
        _ = 2 ^ (n.log2 + 1 + 1) := (Nat.pow_succ' ..).symm
        _ ≤ 2 ^ k := Nat.pow_le_pow_right (by decide) hfar
        _ ≤ 10 ^ k := Nat.pow_le_pow_left (by decide) k
    exact (Nat.div_eq_of_lt (by omega)).symm
  · rfl

/-- Dividing the coefficient rounds the quotient. -/
lemma round_eq_divideRounding (n k : Nat) : round ((n : ℚ) / 10 ^ k) = divideRounding n k := by
  have hquotient : (n : ℚ) / 10 ^ k + 1 / 2 =
      ((2 * n + 10 ^ k : ℕ) : ℤ) / ((2 * 10 ^ k : ℕ) : ℚ) := by
    push_cast
    field_simp
  rw [round_eq, hquotient, Rat.floor_intCast_div_natCast, divideRounding_eq]
  rfl

/-- A coefficient to which zeros are appended is not rounded. -/
lemma round_append_zeros (n k : Nat) : round ((n : ℚ) * 10 ^ k) = (n * 10 ^ k : ℕ) := by
  rw [← round_natCast (α := ℚ) (n * 10 ^ k)]
  push_cast
  rfl

lemma abs_toRat (d : Decimal) : |d.toRat| = d.coefficient * 10 ^ d.exponent := by
  have hsize : (0 : ℚ) ≤ d.coefficient * 10 ^ d.exponent := by positivity
  unfold toRat
  split
  · rw [neg_one_mul, neg_mul, abs_neg, abs_of_nonneg hsize]
  · rw [one_mul, abs_of_nonneg hsize]

/-! ## Fitting a type -/

section Fitting

variable {d : Decimal} {precision scale : Nat}

/-- Within the limits of exponents, bringing a number to a scale rounds it at that scale. -/
lemma rescaled?_eq (hscale : scale ≤ 31) (hlow : -99000 ≤ d.exponent)
    (hhigh : d.exponent ≤ 99000) :
    d.rescaled? (-scale) = some (roundAway (d.toRat * 10 ^ scale)).natAbs := by
  have hgap : wrap32 (-(scale : Int) - d.exponent) = -(scale : Int) - d.exponent :=
    wrap32_of_bounds (by omega) (by omega)
  have hsize : |d.toRat * 10 ^ scale| = d.coefficient * 10 ^ (d.exponent + scale) := by
    rw [abs_mul, abs_toRat, abs_of_nonneg (by positivity), mul_assoc,
      ← zpow_natCast (10 : ℚ) scale, ← zpow_add₀ (by decide)]
  unfold rescaled? exponentLimit
  dsimp only
  rw [hgap, if_neg (by omega)]
  split
  · next hle =>
    obtain ⟨k, hk⟩ := Int.eq_ofNat_of_zero_le (show 0 ≤ d.exponent + scale by omega)
    have hzeros : (-(-(scale : Int) - d.exponent)).toNat = k := by omega
    have hround := natAbs_roundAway (d.toRat * 10 ^ scale)
    rw [hsize, hk, zpow_natCast, round_append_zeros] at hround
    rw [hzeros, Int.ofNat_inj.mp hround]
    rfl
  · next hgt =>
    obtain ⟨k, hk⟩ := Int.eq_ofNat_of_zero_le (show 0 ≤ -(scale : Int) - d.exponent by omega)
    have hquotient : d.exponent + scale = -(k : Int) := by omega
    have hround := natAbs_roundAway (d.toRat * 10 ^ scale)
    rw [hsize, hquotient, zpow_neg, zpow_natCast, ← div_eq_mul_inv,
      round_eq_divideRounding] at hround
    rw [hk, Int.toNat_natCast, Int.ofNat_inj.mp hround]

/-- A number fits if what it is rounded to has few enough digits. -/
lemma fit?_eq (hscale : scale ≤ 31) (hlow : -99000 ≤ d.exponent) (hhigh : d.exponent ≤ 99000) :
    d.fit? precision scale =
      if |roundAway (d.toRat * 10 ^ scale)| < 10 ^ precision then
        some ⟨d.negative, (roundAway (d.toRat * 10 ^ scale)).natAbs, -scale⟩
      else none := by
  have hwidth : (roundAway (d.toRat * 10 ^ scale)).natAbs < Nat.pow 10 precision ↔
      |roundAway (d.toRat * 10 ^ scale)| < 10 ^ precision := by
    rw [Int.abs_eq_natAbs]
    exact_mod_cast Iff.rfl
  rw [fit?, rescaled?_eq hscale hlow hhigh]
  simp only [hwidth]

end Fitting

/-- The diagnostic for a number that does not fit has the code for such numbers. -/
lemma state_outOfRange (precision scale : Nat) :
    (outOfRange precision scale).report.state = ⟨"22003"⟩ :=
  rfl

end Decimal

namespace DecimalValue

open Decimal

/-- A finite number is limited by fitting it. -/
lemma limit_finite {t : SqlType} (hf : t.family = .decimal) (d : Decimal) :
    limit t (.finite d) = (d.fit? t.precision t.scale).elim
      (.error (outOfRange t.precision t.scale)) fun fitted => .ok (.finite fitted) := by
  rw [limit, if_neg (not_not.mpr hf)]
  cases d.fit? t.precision t.scale <;> rfl

/-- What a DECIMAL type does to a finite number `d` whose exponent is not extreme, in terms of the
whole number `q` to which `d * 10 ^ scale` is rounded. The number is accepted exactly if `q` has no
more digits than the precision. It then becomes `q` at the scale, with its sign as before, and
stays so if it is limited again. Otherwise it is refused as out of range. -/
theorem limit_accepts_iff_rounded_fits {t : SqlType} (hf : t.family = .decimal)
    (ht : t.WellFormed) {d : Decimal} (hlow : -99000 ≤ d.exponent) (hhigh : d.exponent ≤ 99000) :
    let q := roundAway (d.toRat * 10 ^ t.scale)
    let rounded : DecimalValue := .finite ⟨d.negative, q.natAbs, -t.scale⟩
    ((∃ v, limit t (.finite d) = .ok v) ↔ |q| < 10 ^ t.precision) ∧
      (|q| < 10 ^ t.precision →
        limit t (.finite d) = .ok rounded ∧ limit t rounded = .ok rounded) ∧
      (¬ |q| < 10 ^ t.precision →
        ∃ e, limit t (.finite d) = .error e ∧ e.report.state = ⟨"22003"⟩) := by
  intro q rounded
  obtain ⟨-, h31, hscale, -⟩ := (SqlType.wellFormed_iff_of_decimal hf).mp ht
  have hlimit : limit t (.finite d) =
      if |q| < 10 ^ t.precision then .ok rounded
      else .error (outOfRange t.precision t.scale) := by
    rw [limit_finite hf, fit?_eq (by omega) hlow hhigh]
    split_ifs <;> rfl
  by_cases hq : |q| < 10 ^ t.precision
  · rw [if_pos hq] at hlimit
    -- The rounded number has the scale already, so that no digit is added or lost.
    have hagain : limit t rounded = .ok rounded := by
      have hwidth : q.natAbs * 10 ^ (t.scale - t.scale) < 10 ^ t.precision := by
        rw [Nat.sub_self, Nat.pow_zero, Nat.mul_one]
        rw [Int.abs_eq_natAbs] at hq
        exact_mod_cast hq
      rw [limit_finite hf, fit?_of_le d.negative le_rfl (by omega) hwidth]
      simp only [Nat.sub_self, Nat.pow_zero, Nat.mul_one]
      rfl
    exact ⟨⟨fun _ => hq, fun _ => ⟨_, hlimit⟩⟩, fun _ => ⟨hlimit, hagain⟩,
      fun hnot => absurd hq hnot⟩
  · rw [if_neg hq] at hlimit
    refine ⟨⟨?_, fun h => absurd h hq⟩, fun h => absurd h hq, fun _ => ?_⟩
    · rintro ⟨v, hv⟩
      rw [hlimit] at hv
      cases hv
    · exact ⟨_, hlimit, state_outOfRange t.precision t.scale⟩

/-- DECIMAL(5,2) rounds `-0.005` to `-0.01`. It refuses `999.995`, which has three digits in front
of the point, but four after rounding. -/
theorem limit_accepts_iff_rounded_fits_carry :
    let t : SqlType := ⟨.decimal, 5, 2, 0, true⟩
    t.family = .decimal ∧ t.WellFormed ∧
      limit t (.finite ⟨true, 5, -3⟩) = .ok (.finite ⟨true, 1, -2⟩) ∧
      ∃ e, limit t (.finite ⟨false, 999995, -3⟩) = .error e ∧ e.report.state = ⟨"22003"⟩ := by
  intro t
  have hf : t.family = .decimal := rfl
  have ht : t.WellFormed := by decide
  have hsmall : roundAway (toRat ⟨true, 5, -3⟩ * 10 ^ t.scale) = -1 := by
    norm_num [roundAway, toRat, t]
  have hlarge : roundAway (toRat ⟨false, 999995, -3⟩ * 10 ^ t.scale) = 100000 := by
    norm_num [roundAway, toRat, t]
  have haccepted :=
    (limit_accepts_iff_rounded_fits hf ht (d := ⟨true, 5, -3⟩) (by decide) (by decide)).2.1
  have hrefused :=
    (limit_accepts_iff_rounded_fits hf ht (d := ⟨false, 999995, -3⟩) (by decide) (by decide)).2.2
  rw [hsmall] at haccepted
  rw [hlarge] at hrefused
  exact ⟨hf, ht, (haccepted (by decide)).1, hrefused (by decide)⟩

end DecimalValue

end SqlTyping
