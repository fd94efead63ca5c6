import SqlTyping.Proofs.Unification.Outcome

/-!
# Order of operands under the policy to reject

Under the policy to reject, an overflow of the maximum precision is noticed only while the operands
so far are exact numbers. Once an approximate number has come, the union is approximate and no
precision is computed any more. Exact numbers that overflow by themselves are therefore rejected if
they come first, and accepted if an approximate number comes first. This is the only way in which
the order of the operands matters.
-/

namespace SqlTyping

open SqlType Merged

/-- Whether a type is an exact numeric one. -/
def SqlType.isExact (t : SqlType) : Bool :=
  t.family.group = .exactNumeric

/-- Whether exact numbers have a union that exceeds the maximum precision: whole numbers alone have
none, and neither has a single type. -/
def Overflows (maximum : Int) (ts : List SqlType) : Prop :=
  2 ≤ ts.length ∧ (∃ t ∈ ts, t.family = .decimal) ∧ maximum < neededPrecision ts

/-- Whether an approximate number can hide that the exact numbers among some types overflow. -/
def OrderSensitive (maximum : Int) (ts : List SqlType) : Prop :=
  (∀ t ∈ ts, t.family.isNumeric) ∧ (∃ t ∈ ts, ¬ t.isExact) ∧
    Overflows maximum (ts.filter isExact)

instance (maximum : Int) (ts : List SqlType) : Decidable (OrderSensitive maximum ts) :=
  inferInstanceAs (Decidable (_ ∧ _ ∧ _ ∧ _ ∧ _))

/-- Further exact numbers do not undo an overflow. -/
lemma Overflows.mono {maximum : Int} {ts us : List SqlType} (h : Overflows maximum ts)
    (hlength : ts.length ≤ us.length) (hsub : ts ⊆ us) : Overflows maximum us := by
  obtain ⟨htwo, ⟨t, ht, hd⟩, hlt⟩ := h
  have hneeded := neededPrecision_mono hsub
  exact ⟨htwo.trans hlength, ⟨t, hsub ht, hd⟩, by omega⟩

/-- Order sensitivity concerns all orders at once. -/
lemma OrderSensitive.perm {maximum : Int} {ts us : List SqlType} (h : OrderSensitive maximum ts)
    (hperm : ts.Perm us) : OrderSensitive maximum us := by
  obtain ⟨hnumeric, ⟨t, ht, happrox⟩, hover⟩ := h
  have hexact := hperm.filter isExact
  exact ⟨fun u hu => hnumeric u (hperm.mem_iff.mpr hu), ⟨t, hperm.subset ht, happrox⟩,
    hover.mono hexact.length_eq.le hexact.subset⟩

/-! ## Merging under the policy to reject -/

/-- The union of some types is a DECIMAL exactly when they are exact numbers, with a DECIMAL among
them. -/
lemma isLUB_decimal_iff {ts : List SqlType} :
    IsLUB (families ts) .decimal ↔ (∀ t ∈ ts, t.isExact) ∧ ∃ t ∈ ts, t.family = .decimal := by
  constructor
  · intro h
    have hle : ∀ t ∈ ts, t.family ≤ .decimal := fun t ht => h.1 ⟨t, ht, rfl⟩
    refine ⟨fun t ht => ?_, ?_⟩
    · simpa [isExact] using (Family.le_decimal_iff t.family).mp (hle t ht)
    · by_contra hnone
      push Not at hnone
      -- Without a DECIMAL, BIGINT would be a smaller bound.
      have table : ∀ f : Family, f ≤ .decimal → f ≠ .decimal → f ≤ .bigInt := by decide
      have hbound : Family.bigInt ∈ upperBounds (families ts) := by
        rintro f ⟨t, ht, rfl⟩
        exact table t.family (hle t ht) (hnone t ht)
      exact absurd (h.2 hbound) (by decide)
  · rintro ⟨hexact, t, ht, hd⟩
    refine ⟨?_, fun f hf => hf ⟨t, ht, hd⟩⟩
    rintro f ⟨u, hu, rfl⟩
    exact (Family.le_decimal_iff u.family).mpr (by simpa [isExact] using hexact u hu)

section

variable {rules : UnionRules} {ts us : List SqlType}

/-- Under the policy to reject, merging a list fails exactly when no family is above all operands,
or the list starts with exact numbers that overflow. -/
lemma ofList?_eq_none_iff_of_reject (hpolicy : rules.policy = .reject)
    (h1 : 1 ≤ rules.maxPrecision) (h31 : rules.maxPrecision ≤ 31)
    (hts : ∀ t ∈ ts, t.WellFormed) (hne : ts ≠ []) :
    ofList? rules ts = none ↔ ¬ BddAbove (families ts) ∨
      ∃ vs, vs <+: ts ∧ (∀ t ∈ vs, t.isExact) ∧ Overflows rules.maxPrecision vs := by
  rw [ofList?_eq_none_iff h1 h31 hts hne]
  constructor
  · rintro ⟨vs, hpre, htwo, hunbounded | ⟨-, hlub, hlt⟩⟩
    · exact Or.inl (mt (BddAbove.mono (families_mono hpre.subset)) hunbounded)
    · obtain ⟨hexact, hd⟩ := isLUB_decimal_iff.mp hlub
      exact Or.inr ⟨vs, hpre, hexact, htwo, hd, hlt⟩
  · rintro (hunbounded | ⟨vs, hpre, hexact, htwo, hd, hlt⟩)
    · refine ⟨ts, List.prefix_rfl, ?_, Or.inl hunbounded⟩
      by_contra hshort
      obtain ⟨t, rfl⟩ : ∃ t, ts = [t] := by
        have hpos := List.length_pos_iff.mpr hne
        exact List.length_eq_one_iff.mp (by omega)
      rw [families_singleton] at hunbounded
      exact hunbounded bddAbove_singleton
    · exact ⟨vs, hpre, htwo, Or.inr ⟨hpolicy, isLUB_decimal_iff.mpr ⟨hexact, hd⟩, hlt⟩⟩

/-- What can be united with a DECIMAL is numeric. -/
lemma isNumeric_of_bddAbove (h : BddAbove (families ts)) (hd : ∃ t ∈ ts, t.family = .decimal) :
    ∀ t ∈ ts, t.family.isNumeric := by
  have table : ∀ f g : Family, .decimal ≤ g → f ≤ g → f.isNumeric := by decide
  obtain ⟨g, hg⟩ := h
  intro t ht
  exact table t.family g (hg hd) (hg ⟨t, ht, rfl⟩)

/-- Numbers can always be united. -/
lemma bddAbove_of_isNumeric (h : ∀ t ∈ ts, t.family.isNumeric) : BddAbove (families ts) := by
  have table : ∀ f : Family, f.isNumeric → f ≤ .double := by decide
  refine ⟨.double, ?_⟩
  rintro f ⟨t, ht, rfl⟩
  exact table t.family (h t ht)

/-- Unless the order matters, operands that cannot be merged cannot be merged in another order. -/
lemma ofList?_eq_none_of_perm (hpolicy : rules.policy = .reject) (h1 : 1 ≤ rules.maxPrecision)
    (h31 : rules.maxPrecision ≤ 31) (hts : ∀ t ∈ ts, t.WellFormed)
    (hstable : ¬ OrderSensitive rules.maxPrecision ts) (hperm : ts.Perm us)
    (h : ofList? rules ts = none) : ofList? rules us = none := by
  by_cases hne : ts = []
  · rw [hne, List.nil_perm] at hperm
    rw [hperm]
    rfl
  have hus : ∀ u ∈ us, u.WellFormed := fun u hu => hts u (hperm.mem_iff.mpr hu)
  have hne' : us ≠ [] := by
    rintro rfl
    exact hne hperm.eq_nil
  rw [ofList?_eq_none_iff_of_reject hpolicy h1 h31 hus hne', ← families_perm hperm]
  by_cases hbounded : BddAbove (families ts)
  · obtain ⟨vs, hpre, hexact, hover⟩ :=
      ((ofList?_eq_none_iff_of_reject hpolicy h1 h31 hts hne).mp h).resolve_left
        (not_not_intro hbounded)
    obtain ⟨t, ht, hd⟩ := hover.2.1
    have hnumeric := isNumeric_of_bddAbove hbounded ⟨t, hpre.subset ht, hd⟩
    -- The exact numbers overflow, so that there cannot be any other numbers.
    have hsub : vs.Sublist (ts.filter isExact) := by
      have hfilter := hpre.sublist.filter isExact
      rwa [List.filter_eq_self.mpr hexact] at hfilter
    have hall : ∀ u ∈ ts, u.isExact := by
      intro u hu
      by_contra hu'
      exact hstable ⟨hnumeric, ⟨u, hu, hu'⟩, hover.mono hsub.length_le hsub.subset⟩
    refine Or.inr ⟨us, List.prefix_rfl, fun u hu => hall u (hperm.mem_iff.mpr hu), ?_⟩
    exact hover.mono (hpre.length_le.trans hperm.length_eq.le)
      (List.Subset.trans hpre.subset hperm.subset)
  · exact Or.inl hbounded

/-- With the exact numbers first, the overflow is noticed. -/
lemma OrderSensitive.exact_first (h : OrderSensitive rules.maxPrecision ts)
    (hpolicy : rules.policy = .reject) (h1 : 1 ≤ rules.maxPrecision)
    (h31 : rules.maxPrecision ≤ 31) (hts : ∀ t ∈ ts, t.WellFormed) :
    ofList? rules (ts.filter isExact ++ ts.filter (! isExact ·)) = none := by
  obtain ⟨-, -, hover⟩ := h
  have hwf : ∀ t ∈ ts.filter isExact ++ ts.filter (! isExact ·), t.WellFormed :=
    fun t ht => hts t ((List.filter_append_perm isExact ts).mem_iff.mp ht)
  rw [ofList?_eq_none_iff_of_reject hpolicy h1 h31 hwf]
  · refine Or.inr ⟨_, List.prefix_append _ _, fun t ht => (List.mem_filter.mp ht).2, hover⟩
  · intro hnil
    rw [(List.append_eq_nil_iff.mp hnil).1] at hover
    exact absurd hover.1 (by decide)

/-- With the approximate numbers first, the overflow goes unnoticed. -/
lemma OrderSensitive.approximate_first (h : OrderSensitive rules.maxPrecision ts)
    (hpolicy : rules.policy = .reject) (h1 : 1 ≤ rules.maxPrecision)
    (h31 : rules.maxPrecision ≤ 31) (hts : ∀ t ∈ ts, t.WellFormed) :
    ofList? rules (ts.filter (! isExact ·) ++ ts.filter isExact) ≠ none := by
  obtain ⟨hnumeric, ⟨t, ht, happrox⟩, -⟩ := h
  have hmem : ∀ u, u ∈ ts.filter (! isExact ·) ++ ts.filter isExact ↔ u ∈ ts := fun u =>
    (List.perm_append_comm.trans (List.filter_append_perm isExact ts)).mem_iff
  obtain ⟨u, us, hus⟩ : ∃ u us, ts.filter (! isExact ·) = u :: us := by
    refine List.exists_cons_of_ne_nil (List.ne_nil_of_mem (List.mem_filter.mpr ⟨ht, ?_⟩))
    simpa using happrox
  have hu : ¬ u.isExact := by
    have hfirst : u ∈ ts.filter (! isExact ·) := by
      rw [hus]
      exact List.mem_cons_self
    simpa using (List.mem_filter.mp hfirst).2
  rw [Ne, ofList?_eq_none_iff_of_reject hpolicy h1 h31 (fun v hv => hts v ((hmem v).mp hv))
    (List.ne_nil_of_mem ((hmem t).mpr ht))]
  rintro (hunbounded | ⟨vs, hpre, hexact, htwo, -⟩)
  · exact hunbounded (bddAbove_of_isNumeric fun v hv => hnumeric v ((hmem v).mp hv))
  · -- A first part that is not empty starts with an approximate number.
    rw [hus, List.cons_append] at hpre
    cases vs with
    | nil => exact absurd htwo (by decide)
    | cons v vs =>
      obtain ⟨rfl, -⟩ := List.cons_prefix_cons.mp hpre
      exact hu (hexact v List.mem_cons_self)

end

/-! ## Operands in another order -/

/-- Selecting typed operands selects their types. -/
lemma reduceOption_filter (p : Option SqlType → Bool) (operands : List (Option SqlType)) :
    (operands.filter p).reduceOption = operands.reduceOption.filter fun t => p (some t) := by
  induction operands with
  | nil => rfl
  | cons operand operands ih =>
    by_cases hp : p operand <;> cases operand <;> simpa [hp] using ih

section

variable {rules : UnionRules} {operands reordered : List (Option SqlType)}

/-- If the operands can be merged in two orders, the results are the same. -/
lemma typeAmong_eq_of_perm {maximum : Int} {x y : Merged} (hperm : reordered.Perm operands)
    (hx : Unites maximum operands.reduceOption x) (hy : Unites maximum reordered.reduceOption y) :
    y.typeAmong reordered = x.typeAmong operands ∧ y.deferred = x.deferred := by
  obtain ⟨htype, hdeferred⟩ := hy.unique hx (hperm.filterMap id)
  refine ⟨?_, hdeferred⟩
  simp only [Merged.typeAmong, hperm.mem_iff, htype]

/-- Unless the order matters, the operands have the same type in every order. -/
lemma map_typeAmong_of_perm (hpolicy : rules.policy = .reject) (h1 : 1 ≤ rules.maxPrecision)
    (h31 : rules.maxPrecision ≤ 31) (hwf : ∀ t, some t ∈ operands → t.WellFormed)
    (hstable : ¬ OrderSensitive rules.maxPrecision operands.reduceOption)
    (hperm : reordered.Perm operands) :
    (ofList? rules reordered.reduceOption).map (Merged.typeAmong reordered) =
      (ofList? rules operands.reduceOption).map (Merged.typeAmong operands) := by
  have hts := wellFormed_reduceOption hwf
  have htyped : operands.reduceOption.Perm reordered.reduceOption := hperm.symm.filterMap id
  have hus : ∀ t ∈ reordered.reduceOption, t.WellFormed :=
    fun t ht => hts t (htyped.mem_iff.mpr ht)
  cases hx : ofList? rules operands.reduceOption with
  | none =>
    rw [ofList?_eq_none_of_perm hpolicy h1 h31 hts hstable htyped hx, Option.map_none,
      Option.map_none]
  | some x =>
    cases hy : ofList? rules reordered.reduceOption with
    | none =>
      have hstable' : ¬ OrderSensitive rules.maxPrecision reordered.reduceOption :=
        fun h => hstable (h.perm htyped.symm)
      rw [ofList?_eq_none_of_perm hpolicy h1 h31 hus hstable' htyped.symm hy] at hx
      cases hx
    | some y =>
      have hsame := typeAmong_eq_of_perm hperm (unites_of_ofList? hts hx) (unites_of_ofList? hus hy)
      rw [Option.map_some, Option.map_some, hsame.1]

/-- If the order matters, some order succeeds and another one fails. -/
lemma OrderSensitive.exists_perm
    (h : OrderSensitive rules.maxPrecision operands.reduceOption)
    (hpolicy : rules.policy = .reject) (h1 : 1 ≤ rules.maxPrecision)
    (h31 : rules.maxPrecision ≤ 31) (hwf : ∀ t, some t ∈ operands → t.WellFormed) :
    (∃ failing : List (Option SqlType), failing.Perm operands ∧
        ofList? rules failing.reduceOption = none) ∧
      ∃ passing : List (Option SqlType), passing.Perm operands ∧
        ofList? rules passing.reduceOption ≠ none := by
  have hts := wellFormed_reduceOption hwf
  have hperm := List.filter_append_perm (Option.any isExact) operands
  refine ⟨⟨_, hperm, ?_⟩, _, List.perm_append_comm.trans hperm, ?_⟩
  · rw [List.reduceOption_append, reduceOption_filter, reduceOption_filter]
    exact h.exact_first hpolicy h1 h31 hts
  · rw [List.reduceOption_append, reduceOption_filter, reduceOption_filter]
    exact h.approximate_first hpolicy h1 h31 hts

end

/-- Under the policy to reject, every order of the operands has the same result unless there is an
approximate number among exact ones that overflow, and then the result does depend on the order.
Two orders in which the operands do unify always lead to the same type. -/
theorem unify_perm_iff {rules : UnionRules} {operands : List (Option SqlType)}
    (hpolicy : rules.policy = .reject) (h1 : 1 ≤ rules.maxPrecision)
    (h31 : rules.maxPrecision ≤ 31) (hwf : ∀ t, some t ∈ operands → t.WellFormed) :
    ((∀ reordered : List (Option SqlType), reordered.Perm operands →
        ∃ o o', unify rules operands = .ok o ∧ unify rules reordered = .ok o' ∧
          o'.type? = o.type?) ↔
      ¬ OrderSensitive rules.maxPrecision operands.reduceOption) ∧
    (∀ (reordered : List (Option SqlType)) (t t' : SqlType) (d d' c c' : Bool),
      reordered.Perm operands → unify rules operands = .ok (.unified t d c) →
        unify rules reordered = .ok (.unified t' d' c') → t' = t ∧ d' = d) := by
  refine ⟨⟨fun h hsensitive => ?_, fun hstable reordered hperm => ?_⟩, ?_⟩
  · obtain ⟨⟨failing, hfailing, hnone⟩, passing, hpassing, hsome⟩ :=
      hsensitive.exists_perm hpolicy h1 h31 hwf
    obtain ⟨o, o₁, ho, ho₁, heq₁⟩ := h failing hfailing
    obtain ⟨o', o₂, ho', ho₂, heq₂⟩ := h passing hpassing
    rw [ho] at ho'
    cases ho'
    have hfail : o₁.type? = none := by
      rw [type?_eq_of_unify h1 h31 (fun t ht => hwf t (hfailing.mem_iff.mp ht)) ho₁, hnone]
      rfl
    have hpass : o₂.type? ≠ none := by
      rw [type?_eq_of_unify h1 h31 (fun t ht => hwf t (hpassing.mem_iff.mp ht)) ho₂]
      simpa using hsome
    exact hpass (heq₂.trans (heq₁.symm.trans hfail))
  · obtain ⟨o, ho, htype, -⟩ := exists_unify_eq h1 h31 hwf
    obtain ⟨o', ho', htype', -⟩ :=
      exists_unify_eq h1 h31 (fun t ht => hwf t (hperm.mem_iff.mp ht))
    refine ⟨o, o', ho, ho', ?_⟩
    rw [htype, htype', map_typeAmong_of_perm hpolicy h1 h31 hwf hstable hperm]
  · intro reordered t t' d d' c c' hperm h h'
    have hwf' : ∀ t, some t ∈ reordered → t.WellFormed :=
      fun t ht => hwf t (hperm.mem_iff.mp ht)
    obtain ⟨x, hx, rfl, rfl, -⟩ := unites_of_unify hwf h
    obtain ⟨y, hy, rfl, rfl, -⟩ := unites_of_unify hwf' h'
    exact typeAmong_eq_of_perm hperm hx hy

/-- Exact numbers that just fit have the same type in every order, also with an approximate number
and an untyped operand among them. -/
theorem unify_perm_iff_fitting :
    let operands := [some ⟨.decimal, 20, 5, 0, false⟩, none, some (fixed .real),
      some (fixed .bigInt)]
    ∃ o o', unify ⟨24, .reject⟩ operands = .ok o ∧
      unify ⟨24, .reject⟩ operands.reverse = .ok o' ∧ o'.type? = o.type? := by
  intro operands
  have hwf : ∀ t, some t ∈ operands → t.WellFormed := by
    simp +decide [operands]
  have hstable : ¬ OrderSensitive 24 operands.reduceOption := by decide
  exact ((unify_perm_iff rfl (by decide) (by decide) hwf).1.mpr hstable) _ operands.reverse_perm

/-- Two types of 31 digits overflow together. This is noticed if they come first, but not if a
DOUBLE comes before them. -/
theorem unify_order_matters :
    let a : SqlType := ⟨.decimal, 31, 0, 0, true⟩
    let b : SqlType := ⟨.decimal, 31, 31, 0, true⟩
    let c := fixed .double
    unify ⟨31, .reject⟩ [some a, some b, some c] = .ok (.mismatch ⟨.precision, 1, a, b⟩) ∧
      unify ⟨31, .reject⟩ [some c, some a, some b] = .ok (.unified c false false) := by
  set_option maxRecDepth 2000 in
  exact ⟨rfl, rfl⟩

end SqlTyping
