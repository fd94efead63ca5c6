import SqlTyping.Proofs.Setting.Reachable
import SqlTyping.Proofs.Unification.Outcome

/-!
# The largest precision of a unified DECIMAL

A DECIMAL that is the union of two types has at most the precision that the settings allow, whatever
the two types are (`precision_le_of_joined`). The type of a longer list is the union of its last
typed operand with the type of those before it, so it keeps to the bound as well. A list with a
single typed operand has no union in it at all: the type is taken over as it is, and if it is a
DECIMAL that is wider than the settings allow, the result of COALESCE is so too.
-/

namespace SqlTyping

open SqlType Merged

/-! ## The last union -/

/-- The union of two DECIMAL attributes keeps to the maximum, whatever they are. -/
lemma precision_decimalUnion_le (maximum p1 s1 p2 s2 : Int) :
    (decimalUnion maximum p1 s1 p2 s2).precision ≤ maximum := by
  unfold decimalUnion
  dsimp only
  split
  · exact le_rfl
  · next hnot => exact not_lt.mp hnot

/-- A precision of zero makes no DECIMAL. -/
lemma SqlType.family_ne_decimal_of_make {f : Family} {s l : Int} {t : SqlType}
    (h : make f 0 s l = .ok t) : t.family ≠ .decimal := by
  intro hd
  rw [(wellFormed_of_make h).2.1] at hd
  subst hd
  obtain ⟨hpositive, -⟩ := make_decimal_eq_ok_iff.mp h
  omega

/-- A DECIMAL that two types unify into has at most the maximum precision. -/
lemma precision_le_of_unionType {maximum : Int} {f : Family} {a b t : SqlType} {c : Bool}
    (h : unionType maximum f a b = .ok (t, c)) (ht : t.family = .decimal) :
    t.precision ≤ maximum := by
  unfold unionType at h
  split at h
  · next hf =>
    subst hf
    obtain ⟨u, hu, h⟩ := Except.bind_eq_ok_iff.mp h
    cases h
    obtain ⟨hpositive, -, -, -, rfl⟩ := make_decimal_eq_ok_iff.mp hu
    have hle := precision_decimalUnion_le maximum a.precision a.scale b.precision b.scale
    simp only [withNullable]
    omega
  -- In the other families types are built with the precision zero.
  · split at h
    · obtain ⟨u, hu, h⟩ := Except.bind_eq_ok_iff.mp h
      cases h
      exact absurd ht (family_ne_decimal_of_make (t := u) hu)
    · obtain ⟨u, hu, h⟩ := Except.bind_eq_ok_iff.mp h
      cases h
      exact absurd ht (family_ne_decimal_of_make (t := u) hu)

/-- A DECIMAL that is the union of two types has at most the precision that the rules allow. -/
lemma precision_le_of_joined {rules : UnionRules} {a b t : SqlType} {d c : Bool}
    (h : pairUnion rules a b = .joined t d c) (ht : t.family = .decimal) :
    t.precision ≤ rules.maxPrecision := by
  unfold pairUnion at h
  split at h
  · cases h
  · split at h
    · cases h
    · next hunion =>
      split at h
      · cases h
      · cases h
        exact precision_le_of_unionType hunion ht

/-- The type of several operands is the union of the last one with the type of those before it. -/
lemma Merged.exists_joined_of_ofList? {rules : UnionRules} {ts : List SqlType} {x : Merged}
    (hx : ofList? rules ts = some x) (htwo : 2 ≤ ts.length) :
    ∃ a b d c, pairUnion rules a b = .joined x.type d c := by
  rcases List.eq_nil_or_concat ts with rfl | ⟨us, u, rfl⟩
  · simp at htwo
  · have hne : us ≠ [] := by
      rintro rfl
      simp at htwo
    rw [List.concat_eq_append, ofList?_append rules hne] at hx
    obtain ⟨y, -, hlast⟩ := Option.bind_eq_some_iff.mp hx
    obtain ⟨z, hz, hlast⟩ := Option.bind_eq_some_iff.mp hlast
    cases hlast
    obtain ⟨t, d, c, hpair, rfl⟩ := join?_eq_some hz
    exact ⟨_, _, d, c, hpair⟩

/-! ## The result of COALESCE -/

section

variable {rules : UnionRules} {operands : List (Option SqlType)} {t : SqlType} {d c : Bool}

/-- A single typed operand is taken over as it is, and untyped operands beside it make it
nullable. -/
lemma coalesce_of_reduceOption_eq (hone : operands.reduceOption = [t]) (hnone : none ∈ operands) :
    coalesce rules operands = .ok (.unified (t.withNullable true) false false) := by
  have hmerged : ofList? rules operands.reduceOption = some (single t) := by
    rw [hone]
    rfl
  have hlength : 2 ≤ operands.length := by
    have hlt := List.reduceOption_length_lt_iff.mpr hnone
    rw [hone, List.length_singleton] at hlt
    exact hlt
  rw [coalesce_eq_ok_iff, unify_eq_of_ofList? hmerged, typeAmong, if_pos hnone]
  exact ⟨hlength, rfl, by simp⟩

/-- Several typed operands unify into a DECIMAL only within the largest precision. -/
lemma precision_le_of_unify (h : unify rules operands = .ok (.unified t d c))
    (ht : t.family = .decimal) (htwo : 2 ≤ operands.reduceOption.length) :
    t.precision ≤ rules.maxPrecision := by
  obtain ⟨x, hx, rfl, -, -⟩ := unify_eq_unified h
  obtain ⟨a, b, e, f, hpair⟩ := exists_joined_of_ofList? hx htwo
  rw [family_typeAmong] at ht
  rw [precision_typeAmong]
  exact precision_le_of_joined hpair ht

end

/-- If COALESCE has a DECIMAL as its result, its precision is at most the largest one that the
settings allow, but for a single typed operand that is already wider. Such an operand is taken over
without being clamped, whatever its precision. -/
theorem coalesce_precision_le_iff (values : Values) (operands : List (Option SqlType)) :
    (∀ t d c, coalesce (Engine.unionRules values) operands = .ok (.unified t d c) →
      t.family = .decimal →
        (t.precision ≤ values.get Engine.maxPrecisionKey ↔
          ∀ u, operands.reduceOption = [u] → u.precision ≤ values.get Engine.maxPrecisionKey)) ∧
    ∀ u, operands.reduceOption = [u] → none ∈ operands →
      coalesce (Engine.unionRules values) operands =
        .ok (.unified (u.withNullable true) false false) := by
  refine ⟨fun t d c h ht => ?_, fun u hone hnone => coalesce_of_reduceOption_eq hone hnone⟩
  obtain ⟨-, hunify, -⟩ := coalesce_eq_ok_iff.mp h
  obtain ⟨x, hx, rfl, -, -⟩ := unify_eq_unified hunify
  rw [precision_typeAmong]
  rcases hts : operands.reduceOption with _ | ⟨u, _ | ⟨v, us⟩⟩
  · rw [hts] at hx
    cases hx
  · rw [hts] at hx
    cases hx
    simp [single]
  · refine iff_of_true ?_ fun u hone => ?_
    · have htwo : 2 ≤ operands.reduceOption.length := by simp [hts]
      have hle := precision_le_of_unify hunify ht htwo
      rw [precision_typeAmong] at hle
      exact hle
    · cases hone

/-- Where the largest precision is 12, a BIGINT and a DECIMAL of five whole digits and four decimal
places need 23 digits, and get 12. -/
theorem coalesce_precision_le_iff_clamped :
    let values := Engine.defaults.put Engine.maxPrecisionKey 12
    let operands := [some (fixed .bigInt), none, some ⟨.decimal, 9, 4, 0, false⟩]
    let t : SqlType := ⟨.decimal, 12, 4, 0, true⟩
    coalesce (Engine.unionRules values) operands = .ok (.unified t false true) ∧
      t.precision ≤ values.get Engine.maxPrecisionKey := by
  intro values operands t
  have hcoalesce : coalesce (Engine.unionRules values) operands = .ok (.unified t false true) := by
    set_option maxRecDepth 2000 in
    rfl
  refine ⟨hcoalesce, ((coalesce_precision_le_iff values operands).1 t _ _ hcoalesce rfl).mpr ?_⟩
  intro u hone
  cases hone

/-- A DECIMAL beside an untyped operand keeps its 20 digits where the settings allow 10. -/
theorem coalesce_exceeds_maxPrecision :
    ¬ ∀ values, Engine.Reachable values → ∀ operands : List (Option SqlType),
      (∀ t, some t ∈ operands → t.WellFormed) → ∀ t d c,
        coalesce (Engine.unionRules values) operands = .ok (.unified t d c) →
          t.family = .decimal → t.precision ≤ values.get Engine.maxPrecisionKey := by
  intro h
  let wide : SqlType := ⟨.decimal, 20, 2, 0, true⟩
  have hset : Engine.registry.set Engine.defaults Engine.maxPrecisionKey "10" =
      .ok (Engine.defaults.put Engine.maxPrecisionKey 10) := rfl
  have hwf : ∀ t, some t ∈ [some wide, none] → t.WellFormed := by simp +decide [wide]
  have hcoalesce : coalesce (Engine.unionRules (Engine.defaults.put Engine.maxPrecisionKey 10))
      [some wide, none] = .ok (.unified wide false false) :=
    coalesce_of_reduceOption_eq (t := wide) rfl (List.mem_cons_of_mem _ List.mem_cons_self)
  exact absurd (h _ (.set .defaults hset) _ hwf _ _ _ hcoalesce rfl) (by decide)

end SqlTyping
