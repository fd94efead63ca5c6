import Mathlib.Algebra.Field.Rat
import Mathlib.Tactic.Ring
import SqlTyping.Proofs.Unification.Outcome
import SqlTyping.Value.Decimal

/-!
# Values in an unclamped union

A DECIMAL union that was not clamped has all the digits and all the places of its operands. Every
value of an operand therefore fits the union when it is evaluated, and it stays the same number:
bringing it to the larger scale only appends zeros.
-/

namespace SqlTyping

open SqlType Merged

/-! ## Numbers -/

namespace Decimal

/-- The number that a decimal stands for. -/
def toRat (v : Decimal) : ℚ :=
  (if v.negative then -1 else 1) * v.coefficient * 10 ^ v.exponent

/-- Zeros appended to the coefficient make up for a smaller exponent. -/
lemma toRat_append_zeros (negative : Bool) (n : Nat) {s scale : Nat} (h : s ≤ scale) :
    toRat ⟨negative, n * 10 ^ (scale - s), -scale⟩ = toRat ⟨negative, n, -s⟩ := by
  have hpower : (10 : ℚ) ^ (scale - s) * 10 ^ (-scale : Int) = 10 ^ (-s : Int) := by
    rw [← zpow_natCast, ← zpow_add₀ (by decide)]
    congr 1
    omega
  rw [toRat, toRat, ← hpower]
  push_cast
  ring

/-- A number with no more places than the scale is not rounded. It fits if it has few enough digits
after zeros are appended. -/
lemma fit?_of_le {precision scale s n : Nat} (negative : Bool) (hs : s ≤ scale)
    (hscale : scale ≤ 31) (hn : n * 10 ^ (scale - s) < 10 ^ precision) :
    fit? precision scale ⟨negative, n, -s⟩ =
      some ⟨negative, n * 10 ^ (scale - s), -scale⟩ := by
  have hgap : wrap32 (-(scale : Int) - -(s : Int)) = -((scale - s : Nat) : Int) := by
    rw [wrap32_of_bounds (by omega) (by omega)]
    omega
  have hrescaled : rescaled? ⟨negative, n, -s⟩ (-scale) = some (n * 10 ^ (scale - s)) := by
    unfold rescaled? exponentLimit
    dsimp only
    rw [hgap, if_neg (by omega), if_pos (by omega), neg_neg, Int.toNat_natCast]
    rfl
  rw [fit?, hrescaled]
  exact if_pos hn

end Decimal

/-! ## Digits of the operands -/

/-- The precision and scale of the values of an exact numeric type. Whole numbers are taken with
the digits of the largest value of their family. -/
def SqlType.exactRange? (t : SqlType) : Option (Nat × Nat) :=
  match t.family with
  | .decimal => some (t.precision, t.scale)
  | .smallInt => some (5, 0)
  | .integer => some (10, 0)
  | .bigInt => some (19, 0)
  | _ => none

/-- Well-formed types carry the precision and scale of their values. -/
lemma SqlType.eq_of_exactRange? {t : SqlType} {p s : Nat} (ht : t.WellFormed)
    (h : t.exactRange? = some (p, s)) : t.family ≤ .decimal ∧ t.precision = p ∧ t.scale = s := by
  unfold exactRange? at h
  split at h
  case h_1 hf =>
    cases h
    exact ⟨hf.le, rfl, rfl⟩
  case h_5 => cases h
  -- The whole numbers have the nominal precision of their family.
  all_goals
    next hf =>
    have hlt : t.family < .decimal := by
      rw [hf, lt_iff_le_and_ne]
      decide
    obtain ⟨hp, hs⟩ := precision_of_lt_decimal ht hlt
    rw [hf] at hp
    cases h
    exact ⟨hlt.le, hp, hs⟩

/-- In a union of exact numbers that was not clamped there is room for the digits and the places of
every operand. -/
lemma Merged.Unites.room {maximum : Int} {ts : List SqlType} {x : Merged} {t : SqlType}
    (hx : Unites maximum ts x) (hle : x.type.family ≤ .decimal) (hc : x.clamped = false)
    (ht : t ∈ ts) :
    t.scale ≤ x.type.scale ∧ t.precision + (x.type.scale - t.scale) ≤ x.type.precision := by
  obtain ⟨hdigits, hscale⟩ := hx.digits_eq hle hc
  have hd : t.digits ≤ x.type.digits := hdigits ▸ le_greatest ht
  have hs : t.scale ≤ x.type.scale := hscale ▸ le_greatest ht
  obtain ⟨-, -, hxs⟩ := bounds_of_le_decimal hx.wellFormed hle
  obtain ⟨-, -, hts⟩ := bounds_of_le_decimal (hx.operands t ht) ((hx.le_family ht).trans hle)
  unfold digits at hd
  omega

/-- If operands unify into a DECIMAL type without being clamped, every value of an exact numeric
operand fits the type, at the scale of the type, and remains the same number. -/
theorem limit_of_unify_unclamped {rules : UnionRules} {operands : List (Option SqlType)}
    {u t : SqlType} {d : Bool} {p s : Nat} (hwf : ∀ t, some t ∈ operands → t.WellFormed)
    (h : unify rules operands = .ok (.unified u d false)) (hu : u.family = .decimal)
    (ht : some t ∈ operands) (hrange : t.exactRange? = some (p, s)) (negative : Bool) {n : Nat}
    (hn : n < 10 ^ p) :
    ∃ w : Decimal, DecimalValue.limit u (.finite ⟨negative, n, -s⟩) = .ok (.finite w) ∧
      w.exponent = -u.scale ∧ w.toRat = Decimal.toRat ⟨negative, n, -s⟩ := by
  obtain ⟨x, hx, rfl, rfl, hc⟩ := unites_of_unify hwf h
  rw [family_typeAmong] at hu
  obtain ⟨-, rfl, rfl⟩ := eq_of_exactRange? (hwf t ht) hrange
  obtain ⟨hscale, hprecision⟩ := hx.room hu.le hc.symm (List.reduceOption_mem_iff.mpr ht)
  obtain ⟨-, h31, hxs⟩ := bounds_of_le_decimal hx.wellFormed hu.le
  have hfits : n * 10 ^ (x.type.scale - t.scale) < 10 ^ x.type.precision := by
    calc
      n * 10 ^ (x.type.scale - t.scale)
        < 10 ^ t.precision * 10 ^ (x.type.scale - t.scale) :=
          Nat.mul_lt_mul_of_pos_right hn (Nat.pow_pos (by decide))
      _ = 10 ^ (t.precision + (x.type.scale - t.scale)) := (Nat.pow_add ..).symm
      _ ≤ 10 ^ x.type.precision := Nat.pow_le_pow_right (by decide) hprecision
  refine ⟨⟨negative, n * 10 ^ (x.type.scale - t.scale), -x.type.scale⟩, ?_, ?_, ?_⟩
  · rw [DecimalValue.limit, if_neg (by rw [family_typeAmong, hu]; decide)]
    rw [precision_typeAmong, scale_typeAmong, Decimal.fit?_of_le negative hscale (by omega) hfits]
  · rw [scale_typeAmong]
  · exact Decimal.toRat_append_zeros negative n hscale

/-- The least INTEGER fits its union with a DECIMAL of three places. -/
theorem limit_of_unify_unclamped_integer :
    let operands := [some ⟨.decimal, 5, 3, 0, false⟩, none, some (fixed .integer)]
    let u : SqlType := ⟨.decimal, 13, 3, 0, true⟩
    unify ⟨13, .defer⟩ operands = .ok (.unified u false false) ∧
      ∃ w : Decimal, DecimalValue.limit u (.finite ⟨true, 2147483648, 0⟩) = .ok (.finite w) ∧
        w.exponent = -3 ∧ w.toRat = Decimal.toRat ⟨true, 2147483648, 0⟩ := by
  intro operands u
  have hwf : ∀ t, some t ∈ operands → t.WellFormed := by simp +decide [operands]
  have hunify : unify ⟨13, .defer⟩ operands = .ok (.unified u false false) := by
    set_option maxRecDepth 2000 in
    rfl
  have hmem : some (fixed .integer) ∈ operands := by decide
  exact ⟨hunify, limit_of_unify_unclamped hwf hunify rfl hmem rfl true (by decide)⟩

end SqlTyping
