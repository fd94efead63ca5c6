import SqlTyping.Proofs.Conversion
import SqlTyping.SqlType

/-!
# Well-formed types

The attributes that a type of each family may have. A DECIMAL has a precision from 1 to 31 and a
scale up to its precision; a type with a length has one between 1 and the ceiling of its family,
which the long families always reach; all other types have the attributes of their family. The
well-formed types are those that `SqlType.make` builds, with either nullability.
-/

namespace SqlTyping

/-- Whether types of a family declare a length of their own. The long families have a length, but
it is always the ceiling. -/
def Family.declaresLength (f : Family) : Bool :=
  f.hasLength && f ≠ .longVarchar && f ≠ .longVarcharForBit

/-- A family with lengths is not DECIMAL. -/
lemma Family.ne_decimal_of_hasLength {f : Family} (hf : f.hasLength) : f ≠ .decimal := by
  rintro rfl
  exact absurd hf (by decide)

attribute [ext] SqlType

namespace SqlType

/-- Whether the attributes of a type are ones that its family allows. -/
def WellFormed (t : SqlType) : Prop :=
  if t.family = .decimal then
    1 ≤ t.precision ∧ t.precision ≤ maxDecimalPrecision ∧ t.scale ≤ t.precision ∧ t.length = 0
  else if t.family.hasLength then
    t.precision = 0 ∧ t.scale = 0 ∧ 1 ≤ t.length ∧ t.length ≤ t.family.maxLength ∧
      (¬ t.family.declaresLength → t.length = t.family.maxLength)
  else
    t.precision = t.family.nominalPrecision ∧ t.scale = t.family.nominalScale ∧ t.length = 0

/-- Well-formedness is decidable. -/
instance (t : SqlType) : Decidable t.WellFormed :=
  inferInstanceAs (Decidable (@ite Prop _ _ _ (@ite Prop _ _ _ _)))

section

variable {t : SqlType}

/-! ## Attributes by family -/

/-- The attributes of a DECIMAL. -/
lemma wellFormed_iff_of_decimal (hf : t.family = .decimal) :
    t.WellFormed ↔
      1 ≤ t.precision ∧ t.precision ≤ 31 ∧ t.scale ≤ t.precision ∧ t.length = 0 := by
  unfold WellFormed
  rw [if_pos hf, maxDecimalPrecision]

/-- The attributes of a type with a length. -/
lemma wellFormed_iff_of_hasLength (hf : t.family.hasLength) :
    t.WellFormed ↔
      t.precision = 0 ∧ t.scale = 0 ∧ 1 ≤ t.length ∧ t.length ≤ t.family.maxLength ∧
        (¬ t.family.declaresLength → t.length = t.family.maxLength) := by
  unfold WellFormed
  rw [if_neg (Family.ne_decimal_of_hasLength hf), if_pos hf]

/-- The attributes of a type that declares none. -/
lemma wellFormed_iff_of_fixed (hd : t.family ≠ .decimal) (hl : ¬ t.family.hasLength) :
    t.WellFormed ↔
      t.precision = t.family.nominalPrecision ∧ t.scale = t.family.nominalScale ∧
        t.length = 0 := by
  unfold WellFormed
  rw [if_neg hd, if_neg hl]

/-- Nullability does not matter for well-formedness. -/
@[simp] lemma wellFormed_withNullable (n : Bool) : (t.withNullable n).WellFormed ↔ t.WellFormed :=
  Iff.rfl

/-! ## Building types -/

/-- DECIMAL types are built from a precision and a scale in range. -/
lemma make_decimal_eq_ok_iff {p s l : Int} :
    make .decimal p s l = .ok t ↔
      1 ≤ p ∧ p ≤ 31 ∧ 0 ≤ s ∧ s ≤ p ∧ t = ⟨.decimal, p.toNat, s.toNat, 0, true⟩ := by
  unfold make
  rw [if_pos rfl, maxDecimalPrecision]
  split_ifs with hp hs
  · constructor
    · intro h
      cases h
    · omega
  · constructor
    · intro h
      cases h
    · omega
  · constructor
    · intro h
      cases h
      exact ⟨by omega, by omega, by omega, by omega, rfl⟩
    · rintro ⟨-, -, -, -, rfl⟩
      rfl

/-- Types that declare a length are built from a length in range. -/
lemma make_eq_ok_iff_of_declaresLength {f : Family} (hf : f.declaresLength) {p s l : Int} :
    make f p s l = .ok t ↔
      1 ≤ l ∧ l ≤ f.maxLength ∧ t = ⟨f, 0, 0, l.toNat, true⟩ := by
  simp only [Family.declaresLength, Bool.and_eq_true, decide_eq_true_eq] at hf
  obtain ⟨⟨hl, hv⟩, hb⟩ := hf
  have hlong : ¬ (f = .longVarchar ∨ f = .longVarcharForBit) := by
    rintro (h | h)
    · exact hv h
    · exact hb h
  unfold make
  rw [if_neg (Family.ne_decimal_of_hasLength hl), if_pos hl, if_neg hlong]
  split_ifs with h
  · constructor
    · intro h
      cases h
    · omega
  · constructor
    · intro h
      cases h
      exact ⟨by omega, by omega, rfl⟩
    · rintro ⟨-, -, rfl⟩
      rfl

/-- For all other families the given attributes are ignored. -/
lemma make_eq_fixed {f : Family} (hd : f ≠ .decimal) (hl : ¬ f.declaresLength) (p s l : Int) :
    make f p s l = .ok (fixed f) := by
  unfold make
  rw [if_neg hd]
  by_cases hf : f.hasLength
  · have hlong : f = .longVarchar ∨ f = .longVarcharForBit := by
      simpa [Family.declaresLength, hf, or_iff_not_imp_left] using hl
    rw [if_pos hf, if_pos hlong]
  · rw [if_neg hf]

/-- The type of a family that declares no attributes is well formed. -/
lemma wellFormed_fixed {f : Family} (hd : f ≠ .decimal) (hl : ¬ f.declaresLength) :
    (fixed f).WellFormed := by
  revert f
  decide

/-- What `make` builds is a well-formed nullable type of the given family. -/
lemma wellFormed_of_make {f : Family} {p s l : Int} (h : make f p s l = .ok t) :
    t.WellFormed ∧ t.family = f ∧ t.nullable = true := by
  by_cases hd : f = .decimal
  · subst hd
    obtain ⟨h1, h2, h3, h4, rfl⟩ := make_decimal_eq_ok_iff.mp h
    refine ⟨?_, rfl, rfl⟩
    rw [wellFormed_iff_of_decimal rfl]
    dsimp only
    omega
  · by_cases hl : f.declaresLength
    · obtain ⟨h1, h2, rfl⟩ := (make_eq_ok_iff_of_declaresLength hl).mp h
      refine ⟨?_, rfl, rfl⟩
      have hf : f.hasLength := by
        simp only [Family.declaresLength, Bool.and_eq_true] at hl
        exact hl.1.1
      rw [wellFormed_iff_of_hasLength hf]
      dsimp only
      refine ⟨rfl, rfl, by omega, by omega, fun hnot => absurd hl hnot⟩
    · rw [make_eq_fixed hd hl] at h
      cases h
      exact ⟨wellFormed_fixed hd hl, rfl, rfl⟩

end

end SqlType

end SqlTyping
