import Mathlib.Order.Bounds.Basic
import SqlTyping.Proofs.Unification.Capacity
import SqlTyping.Proofs.Unification.Grouping
import SqlTyping.Proofs.Unification.Rejection
import SqlTyping.Proofs.Unification.Soundness

/-!
# The union of exact numbers with a DECIMAL among them

Exact numbers, of which one is a DECIMAL, unify into the DECIMAL that has as many digits in front of
the point as any of them, and as many behind it. Although each step may already clamp what the steps
before it have computed, and whole numbers in front of the first DECIMAL are never clamped, this
comes to one clamp at the end. Under the policy to reject, the operand that is refused is the first
one up to which the operands together need more than the maximum precision.
-/

namespace SqlTyping

open SqlType Merged

/-! ## The digits of exact numbers -/

/-- The precision and scale of the values of a type, which are zero if they are no exact numbers. -/
def SqlType.range (t : SqlType) : Nat × Nat :=
  t.exactRange?.getD (0, 0)

/-- The most digits in front of the point among the operands. -/
def wholeDigits (operands : List (Option SqlType)) : Nat :=
  greatest (fun t => t.range.1 - t.range.2) operands.reduceOption

/-- The most decimal places among the operands. -/
def places (operands : List (Option SqlType)) : Nat :=
  greatest (fun t => t.range.2) operands.reduceOption

/-- Whether the union of some exact numbers is computed as a DECIMAL: there is one among them, and
it is not alone. -/
def HasDecimalUnion (operands : List (Option SqlType)) : Prop :=
  2 ≤ operands.reduceOption.length ∧ ∃ t, some t ∈ operands ∧ t.family = .decimal

/-- Whether the DECIMAL union of some exact numbers needs more than `maximum` digits. -/
def NeedsMore (maximum : Nat) (operands : List (Option SqlType)) : Prop :=
  HasDecimalUnion operands ∧ maximum < wholeDigits operands + places operands

/-- Further operands do not lessen the need. -/
lemma NeedsMore.mono {maximum : Nat} {operands further : List (Option SqlType)}
    (h : NeedsMore maximum operands) (hsub : operands.Sublist further) :
    NeedsMore maximum further := by
  obtain ⟨⟨htwo, t, ht, hd⟩, hlt⟩ := h
  have htyped : operands.reduceOption.Sublist further.reduceOption := hsub.filterMap id
  refine ⟨⟨htwo.trans htyped.length_le, t, hsub.subset ht, hd⟩, hlt.trans_le ?_⟩
  exact Nat.add_le_add (greatest_mono htyped.subset) (greatest_mono htyped.subset)

/-- Whether the typed ones among some operands are exact numbers. -/
structure ExactOperands (operands : List (Option SqlType)) : Prop where
  wellFormed : ∀ t, some t ∈ operands → t.WellFormed
  isExact : ∀ t, some t ∈ operands → t.isExact

/-- Well-formed exact types carry the precision and scale of their values. -/
lemma SqlType.range_eq {t : SqlType} (ht : t.WellFormed) (hexact : t.isExact) :
    t.range = (t.precision, t.scale) := by
  have table : ∀ f : Family, f.group = .exactNumeric →
      f = .smallInt ∨ f = .integer ∨ f = .bigInt ∨ f = .decimal := by
    decide
  have hsome : ∃ p s, t.exactRange? = some (p, s) := by
    rcases table t.family (of_decide_eq_true hexact) with hf | hf | hf | hf <;>
      simp [exactRange?, hf]
  obtain ⟨p, s, hrange⟩ := hsome
  obtain ⟨-, hp, hs⟩ := eq_of_exactRange? ht hrange
  rw [range, hrange, hp, hs]
  rfl

namespace ExactOperands

variable {operands : List (Option SqlType)}

/-- Exact operands remain exact if some are dropped. -/
lemma mono (h : ExactOperands operands) {kept : List (Option SqlType)} (hsub : kept ⊆ operands) :
    ExactOperands kept where
  wellFormed t ht := h.wellFormed t (hsub ht)
  isExact t ht := h.isExact t (hsub ht)

/-- The types of exact operands are well-formed. -/
lemma wellFormed_of_mem (h : ExactOperands operands) :
    ∀ t ∈ operands.reduceOption, t.WellFormed :=
  wellFormed_reduceOption h.wellFormed

/-- The types of exact operands are exact. -/
lemma isExact_of_mem (h : ExactOperands operands) : ∀ t ∈ operands.reduceOption, t.isExact :=
  fun t ht => h.isExact t (List.reduceOption_mem_iff.mp ht)

/-- The digits of exact operands are those that their types carry. -/
lemma wholeDigits_eq (h : ExactOperands operands) :
    wholeDigits operands = greatest digits operands.reduceOption := by
  apply greatest_congr
  intro t ht
  rw [range_eq (h.wellFormed_of_mem t ht) (h.isExact_of_mem t ht), digits]

/-- The decimal places of exact operands are those that their types carry. -/
lemma places_eq (h : ExactOperands operands) :
    places operands = greatest scale operands.reduceOption := by
  apply greatest_congr
  intro t ht
  rw [range_eq (h.wellFormed_of_mem t ht) (h.isExact_of_mem t ht)]

/-- The digits and the places of exact operands make up the precision that they need. -/
lemma neededPrecision_eq (h : ExactOperands operands) :
    neededPrecision operands.reduceOption = wholeDigits operands + places operands := by
  rw [neededPrecision, h.wholeDigits_eq, h.places_eq]

/-- Exact operands can always be united. -/
lemma bddAbove (h : ExactOperands operands) : BddAbove (families operands.reduceOption) := by
  refine ⟨.decimal, ?_⟩
  rintro f ⟨t, ht, rfl⟩
  exact (Family.le_decimal_iff t.family).mpr (of_decide_eq_true (h.isExact_of_mem t ht))

/-- With a DECIMAL among them, exact operands unite to a DECIMAL. -/
lemma isLUB_decimal (h : ExactOperands operands) (hunion : HasDecimalUnion operands) :
    IsLUB (families operands.reduceOption) .decimal := by
  obtain ⟨-, t, ht, hd⟩ := hunion
  exact isLUB_decimal_iff.mpr ⟨h.isExact_of_mem, t, List.reduceOption_mem_iff.mpr ht, hd⟩

/-- Exact operands overflow exactly when they need more than the maximum precision. -/
lemma overflows_iff (h : ExactOperands operands) (maximum : Nat) :
    Overflows maximum operands.reduceOption ↔ NeedsMore maximum operands := by
  simp only [Overflows, NeedsMore, HasDecimalUnion, h.neededPrecision_eq, Int.ofNat_lt,
    List.reduceOption_mem_iff, and_assoc]

end ExactOperands

/-! ## Merging exact numbers -/

/-- The DECIMAL with the given attributes for the values of some operands. It is nullable if one of
them is untyped or nullable. -/
def decimalFor (operands : List (Option SqlType)) (precision scale : Nat) : SqlType :=
  ⟨.decimal, precision, scale, 0, operands.any fun operand => operand.elim true nullable⟩

namespace ExactOperands

variable {operands : List (Option SqlType)} {maximum : Nat} {x : Merged}

/-- The type of merged operands has all their digits and places, up to one clamp. -/
lemma typeAmong_eq (h : ExactOperands operands) (hunion : HasDecimalUnion operands)
    (hx : Unites maximum operands.reduceOption x) :
    x.typeAmong operands =
      decimalFor operands (min (wholeDigits operands + places operands) maximum)
        (min (places operands) maximum) := by
  have hd : x.type.family = .decimal := hx.isLUB.unique (h.isLUB_decimal hunion)
  have hclosed : x.type = united maximum .decimal operands.reduceOption := by
    rcases hx.type_eq with hone | ⟨-, hclosed⟩
    · have htwo := hunion.1
      rw [hone, List.length_singleton] at htwo
      omega
    · rwa [hd, Int.toNat_natCast] at hclosed
  ext
  · rw [family_typeAmong, hd, decimalFor]
  · rw [precision_typeAmong, hclosed, precision_united_decimal, h.neededPrecision_eq, decimalFor]
  · rw [scale_typeAmong, hclosed, scale_united_decimal, h.places_eq, decimalFor]
  · rw [length_typeAmong, hclosed, length_united_of_not_hasLength (by decide), decimalFor]
  · rw [Bool.eq_iff_iff, nullable_typeAmong, hx.nullable_iff, decimalFor, List.any_eq_true]
    simp [Option.exists, List.reduceOption_mem_iff]

/-- The operands are merged without reading strings, and they are clamped exactly when they need
more than the maximum precision. -/
lemma flags_eq (h : ExactOperands operands) (hunion : HasDecimalUnion operands)
    (hx : Unites maximum operands.reduceOption x) :
    x.deferred = false ∧
      x.clamped = decide (maximum < wholeDigits operands + places operands) := by
  have hd : x.type.family = .decimal := hx.isLUB.unique (h.isLUB_decimal hunion)
  constructor
  · rw [← Bool.not_eq_true, hx.deferred_iff, hd]
    rintro ⟨t, -, hreads⟩
    exact absurd (Family.readsAs_iff.mp hreads).2 (by decide)
  · rw [Bool.eq_iff_iff, hx.clamped_iff hd, h.neededPrecision_eq, decide_eq_true_eq, Int.ofNat_lt]
    exact and_iff_right hunion.1

/-- Where the operands can be merged, unification gives the closed form. -/
lemma unify_eq {policy : OverflowPolicy} (h : ExactOperands operands)
    (hunion : HasDecimalUnion operands)
    (hx : ofList? ⟨maximum, policy⟩ operands.reduceOption = some x) :
    unify ⟨maximum, policy⟩ operands =
      .ok (.unified
        (decimalFor operands (min (wholeDigits operands + places operands) maximum)
          (min (places operands) maximum))
        false (decide (maximum < wholeDigits operands + places operands))) := by
  have hunites : Unites maximum operands.reduceOption x := unites_of_ofList? h.wellFormed_of_mem hx
  obtain ⟨hdeferred, hclamped⟩ := h.flags_eq hunion hunites
  rw [unify_eq_of_ofList? hx, h.typeAmong_eq hunion hunites, hdeferred, hclamped]

/-- Under the policy to reject, exact operands cannot be merged exactly when they need more than the
maximum precision: an overflow of the first ones is one of all. -/
lemma ofList?_eq_none_iff_needsMore (h : ExactOperands operands) (h1 : 1 ≤ maximum)
    (h31 : maximum ≤ 31) (hne : operands.reduceOption ≠ []) :
    ofList? ⟨maximum, .reject⟩ operands.reduceOption = none ↔ NeedsMore maximum operands := by
  rw [← h.overflows_iff, ofList?_eq_none_iff_of_reject rfl (Int.ofNat_le.mpr h1)
    (Int.ofNat_le.mpr h31) h.wellFormed_of_mem hne]
  constructor
  · rintro (hunbounded | ⟨vs, hpre, -, hover⟩)
    · exact absurd h.bddAbove hunbounded
    · exact hover.mono hpre.length_le hpre.subset
  · intro hover
    exact Or.inr ⟨_, List.prefix_rfl, h.isExact_of_mem, hover⟩

/-- An exact operand that does not fit those before it exceeds the maximum precision. -/
lemma reason_eq {before after : List (Option SqlType)} {t : SqlType} {rules : UnionRules}
    {reason : MismatchReason} (h : ExactOperands (before ++ some t :: after))
    (hx : ofList? rules before.reduceOption = some x)
    (hpair : pairUnion rules x.type t = .refused reason) : reason = .precision := by
  have hbefore : ExactOperands before := h.mono (List.subset_append_left before _)
  have ht : t.WellFormed := h.wellFormed t (by simp)
  have hunites := unites_of_ofList? hbefore.wellFormed_of_mem hx
  rcases pairUnion_refused hunites.wellFormed ht hpair with ⟨-, hmeet⟩ | ⟨hreason, -⟩
  · have hunbounded := Family.not_bddAbove_union hunites.isLUB
      (unites_single rules.maxPrecision ht).isLUB hmeet
    refine absurd (h.bddAbove.mono ?_) hunbounded
    rw [List.reduceOption_append, families_append, List.reduceOption_cons_of_some]
    exact Set.union_subset_union_right _ (families_mono (by simp))
  · exact hreason

/-- Where exact operands do not unify, they exceed the maximum precision, at the first operand up to
which they need more. -/
lemma isLeast_position (h : ExactOperands operands) (h1 : 1 ≤ maximum) (h31 : maximum ≤ 31)
    {m : Mismatch} (hm : unify ⟨maximum, .reject⟩ operands = .ok (.mismatch m)) :
    m.reason = .precision ∧ operands[m.position]? = some (some m.operand) ∧
      IsLeast {i | NeedsMore maximum (operands.take (i + 1))} m.position := by
  obtain ⟨before, after, x, rfl, hx, hbefore, hposition, hpair⟩ := unify_eq_mismatch hm
  rw [hbefore] at hpair
  rw [hposition]
  refine ⟨h.reason_eq hx hpair, by simp, ?_, ?_⟩
  · -- The operands up to the one that is refused cannot be merged.
    have htake : (before ++ some m.operand :: after).take (before.length + 1) =
        before ++ [some m.operand] := by
      rw [List.take_append, List.take_of_length_le (by omega)]
      simp
    have hlast : before ++ [some m.operand] = before ++ some m.operand :: [] := rfl
    have hexact : ExactOperands (before ++ [some m.operand]) :=
      h.mono (htake ▸ List.take_subset _ _)
    have hne : (before ++ [some m.operand]).reduceOption ≠ [] := by
      simp [List.reduceOption_append]
    have hnone := ofList?_eq_none_of_refused hlast hx hpair
    have hneeds := (hexact.ofList?_eq_none_iff_needsMore h1 h31 hne).mp hnone
    rwa [← htake] at hneeds
  · -- Those in front of it can be merged, so they do not need too much, and neither do fewer.
    intro i hi
    by_contra hlt
    have hexact : ExactOperands before := h.mono (List.subset_append_left before _)
    have hne : before.reduceOption ≠ [] := (unites_of_ofList? hexact.wellFormed_of_mem hx).ne_nil
    have hpre : (before ++ some m.operand :: after).take (i + 1) <+: before := by
      rw [List.take_append_of_le_length (by omega)]
      exact List.take_prefix _ _
    have hneeds : NeedsMore maximum before := NeedsMore.mono hi hpre.sublist
    rw [(hexact.ofList?_eq_none_iff_needsMore h1 h31 hne).mpr hneeds] at hx
    cases hx

end ExactOperands

/-- Exact numbers with a DECIMAL among them that is not alone are united by the most digits that
they have in front of the point and behind it. Under the policy to defer they unify into the DECIMAL
with all of these digits, clamped once if they are more than the maximum precision. Under the policy
to reject they unify into the unclamped DECIMAL exactly when they do not need more than the maximum,
and otherwise the first operand up to which they need more is refused for its precision. -/
theorem unify_decimal_closed_form {operands : List (Option SqlType)} {maximum : Nat}
    (h1 : 1 ≤ maximum) (h31 : maximum ≤ 31) (h : ExactOperands operands)
    (hunion : HasDecimalUnion operands) :
    let precision := wholeDigits operands + places operands
    let scale := places operands
    unify ⟨maximum, .defer⟩ operands =
        .ok (.unified (decimalFor operands (min precision maximum) (min scale maximum)) false
          (decide (maximum < precision))) ∧
      (unify ⟨maximum, .reject⟩ operands =
          .ok (.unified (decimalFor operands precision scale) false false) ↔
        precision ≤ maximum) ∧
      (maximum < precision → ∃ m, unify ⟨maximum, .reject⟩ operands = .ok (.mismatch m) ∧
        m.reason = .precision ∧ operands[m.position]? = some (some m.operand) ∧
        IsLeast {i | NeedsMore maximum (operands.take (i + 1))} m.position) := by
  intro precision scale
  have hne : operands.reduceOption ≠ [] := by
    have htwo := hunion.1
    exact List.ne_nil_of_length_pos (by omega)
  have hreject := h.ofList?_eq_none_iff_needsMore h1 h31 hne
  refine ⟨?_, ⟨?_, ?_⟩, ?_⟩
  · have hsome : ofList? ⟨maximum, .defer⟩ operands.reduceOption ≠ none := by
      rw [Ne, ofList?_eq_none_iff_of_defer rfl (Int.ofNat_le.mpr h1) (Int.ofNat_le.mpr h31)
        h.wellFormed_of_mem hne]
      exact not_not_intro h.bddAbove
    obtain ⟨x, hx⟩ := Option.ne_none_iff_exists'.mp hsome
    exact h.unify_eq hunion hx
  · intro hunified
    obtain ⟨x, hx, -⟩ := unify_eq_unified hunified
    by_contra hlt
    rw [hreject.mpr ⟨hunion, Nat.lt_of_not_le hlt⟩] at hx
    cases hx
  · intro hle
    have hsome : ofList? ⟨maximum, .reject⟩ operands.reduceOption ≠ none :=
      mt hreject.mp fun hneeds => absurd hneeds.2 (Nat.not_lt.mpr hle)
    obtain ⟨x, hx⟩ := Option.ne_none_iff_exists'.mp hsome
    have hunify := h.unify_eq hunion hx
    have hscale : scale ≤ maximum := (Nat.le_add_left _ _).trans hle
    rwa [Nat.min_eq_left hle, Nat.min_eq_left hscale, decide_eq_false (Nat.not_lt.mpr hle)]
      at hunify
  · intro hlt
    obtain ⟨m, hm⟩ := unify_eq_mismatch_of_ofList? (Int.ofNat_le.mpr h1) (Int.ofNat_le.mpr h31)
      h.wellFormed hne (hreject.mpr ⟨hunion, hlt⟩)
    exact ⟨m, hm, h.isLeast_position h1 h31 hm⟩

/-- The digits of a BIGINT exceed a maximum of 12, but only the DECIMAL after it and an untyped
operand makes them count. The union is clamped there, or the DECIMAL is refused. -/
theorem unify_decimal_closed_form_bigInt :
    let operands := [some (fixed .bigInt), none, some (fixed .integer),
      some ⟨.decimal, 9, 4, 0, false⟩, some (fixed .smallInt)]
    ExactOperands operands ∧ HasDecimalUnion operands ∧
      unify ⟨12, .defer⟩ operands = .ok (.unified ⟨.decimal, 12, 4, 0, true⟩ false true) ∧
      unify ⟨12, .reject⟩ operands =
        .ok (.mismatch ⟨.precision, 3, fixed .bigInt, ⟨.decimal, 9, 4, 0, false⟩⟩) ∧
      IsLeast {i | NeedsMore 12 (operands.take (i + 1))} 3 := by
  intro operands
  have hexact : ExactOperands operands := ⟨by simp +decide [operands], by simp +decide [operands]⟩
  have hunion : HasDecimalUnion operands := ⟨by decide, ⟨.decimal, 9, 4, 0, false⟩, by decide, rfl⟩
  have hrefused : unify ⟨12, .reject⟩ operands =
      .ok (.mismatch ⟨.precision, 3, fixed .bigInt, ⟨.decimal, 9, 4, 0, false⟩⟩) := by
    set_option maxRecDepth 2000 in
    rfl
  have hpositive : 1 ≤ 12 := by decide
  obtain ⟨hdefer, -, hreject⟩ := unify_decimal_closed_form hpositive (by decide) hexact hunion
  obtain ⟨m, hm, -, -, hleast⟩ := hreject (by decide)
  cases hrefused.symm.trans hm
  exact ⟨hexact, hunion, hdefer, hrefused, hleast⟩

end SqlTyping
