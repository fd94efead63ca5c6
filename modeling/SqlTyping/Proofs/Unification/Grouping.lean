import SqlTyping.Proofs.Unification.Outcome

/-!
# Order and grouping of operands

Under the policy to defer, the union of operands depends neither on their order nor on the way in
which they are grouped into pairs. Both the walk over the list and the evaluation of a grouping
produce the union of the operands in the sense of `Merged.Unites`, which determines the type and
whether strings are read; and both fail exactly when no family is above those of all operands.
-/

namespace SqlTyping

open SqlType Merged

/-- A way to group operands into pairs. -/
inductive Grouping where
  | operand (t : SqlType)
  | pair (left right : Grouping)

namespace Grouping

/-- The operands from left to right. -/
def operands : Grouping → List SqlType
  | operand t => [t]
  | pair left right => left.operands ++ right.operands

/-- Unifies the operands pair by pair: their type, and whether some pair has to be read from
strings. There is no result if some pair does not unify. -/
def union (rules : UnionRules) : Grouping → Except Abort (Option (SqlType × Bool))
  | operand t => .ok (some (t, false))
  | pair left right => do
    match ← left.union rules, ← right.union rules with
    | some (a, d), some (b, e) =>
      match ← unifyPair rules (some a) (some b) with
      | .unified t f _ => return some (t, d || e || f)
      | _ => return none
    | _, _ => return none

/-! ## Groupings as merged groups -/

/-- The grouped operands as one group. -/
def merge? (rules : UnionRules) : Grouping → Option Merged
  | operand t => some (single t)
  | pair left right =>
    (left.merge? rules).bind fun x => (right.merge? rules).bind fun y => x.join? rules y

/-- Evaluating a grouping gives the union of its operands. -/
lemma unites_of_merge? {rules : UnionRules} {g : Grouping} {x : Merged}
    (hwf : ∀ t ∈ g.operands, t.WellFormed) (h : g.merge? rules = some x) :
    Unites rules.maxPrecision g.operands x := by
  induction g generalizing x with
  | operand t =>
    cases h
    exact unites_single _ (hwf t (List.mem_singleton_self t))
  | pair left right ihl ihr =>
    obtain ⟨y, hy, h⟩ := Option.bind_eq_some_iff.mp h
    obtain ⟨z, hz, h⟩ := Option.bind_eq_some_iff.mp h
    obtain ⟨hwfl, hwfr⟩ := List.forall_mem_append.mp hwf
    exact (ihl hwfl hy).join (ihr hwfr hz) h

/-- Under the policy to defer, a grouping fails only if no family is above all of its operands. -/
lemma not_bddAbove_of_merge? {rules : UnionRules} {g : Grouping} (hpolicy : rules.policy = .defer)
    (h1 : 1 ≤ rules.maxPrecision) (h31 : rules.maxPrecision ≤ 31)
    (hwf : ∀ t ∈ g.operands, t.WellFormed) (h : g.merge? rules = none) :
    ¬ BddAbove (families g.operands) := by
  induction g with
  | operand t => cases h
  | pair left right ihl ihr =>
    obtain ⟨hwfl, hwfr⟩ := List.forall_mem_append.mp hwf
    rw [operands, families_append]
    cases hy : left.merge? rules with
    | none => exact mt (BddAbove.mono Set.subset_union_left) (ihl hwfl hy)
    | some y =>
      cases hz : right.merge? rules with
      | none => exact mt (BddAbove.mono Set.subset_union_right) (ihr hwfr hz)
      | some z =>
        have hjoin : y.join? rules z = none := by simpa [merge?, hy, hz] using h
        rcases obstructed_of_join?_eq_none h1 h31 (unites_of_merge? hwfl hy)
            (unites_of_merge? hwfr hz) hjoin with hunbounded | ⟨hreject, -⟩
        · rwa [families_append] at hunbounded
        · rw [hpolicy] at hreject
          cases hreject

/-- With a maximum precision that a type can have, no pair of a grouping crashes. -/
lemma union_eq {rules : UnionRules} {g : Grouping} (h1 : 1 ≤ rules.maxPrecision)
    (h31 : rules.maxPrecision ≤ 31) (hwf : ∀ t ∈ g.operands, t.WellFormed) :
    g.union rules = .ok ((g.merge? rules).map fun x => (x.type, x.deferred)) := by
  induction g with
  | operand t => rfl
  | pair left right ihl ihr =>
    obtain ⟨hwfl, hwfr⟩ := List.forall_mem_append.mp hwf
    rw [union, ihl hwfl, ihr hwfr, merge?]
    cases hy : left.merge? rules with
    | none => rfl
    | some y =>
      cases hz : right.merge? rules with
      | none => rfl
      | some z =>
        have hywf := (unites_of_merge? hwfl hy).wellFormed
        have hzwf := (unites_of_merge? hwfr hz).wellFormed
        rw [Option.bind_some, Option.bind_some, join?]
        cases hpair : pairUnion rules y.type z.type with
        | joined t d c =>
          have hunify : unifyPair rules (some y.type) (some z.type) = .ok (.unified t d c) := by
            rw [unifyPair, unifyTyped, hpair]
            rfl
          simp only [Option.map_some, bind, Except.bind, hunify]
          rfl
        | refused reason =>
          have hunify : unifyPair rules (some y.type) (some z.type) =
              .ok (.mismatch ⟨reason, 1, y.type, z.type⟩) := by
            rw [unifyPair, unifyTyped, hpair]
            rfl
          simp only [Option.map_some, bind, Except.bind, hunify]
          rfl
        | broken cause => exact absurd hpair (pairUnion_ne_broken h1 h31 hywf hzwf cause)

end Grouping

/-- Under the policy to defer, merging a list fails exactly when no family is above all operands. -/
lemma ofList?_eq_none_iff_of_defer {rules : UnionRules} {ts : List SqlType}
    (hpolicy : rules.policy = .defer) (h1 : 1 ≤ rules.maxPrecision)
    (h31 : rules.maxPrecision ≤ 31) (hts : ∀ t ∈ ts, t.WellFormed) (hne : ts ≠ []) :
    ofList? rules ts = none ↔ ¬ BddAbove (families ts) := by
  constructor
  · intro h
    obtain ⟨vs, hpre, -, hobstructed⟩ := (ofList?_eq_none_iff h1 h31 hts hne).mp h
    rcases hobstructed with hunbounded | ⟨hreject, -⟩
    · exact mt (BddAbove.mono (families_mono hpre.subset)) hunbounded
    · rw [hpolicy] at hreject
      cases hreject
  · intro h
    cases hx : ofList? rules ts with
    | none => rfl
    | some x => exact absurd ⟨_, (unites_of_ofList? hts hx).isLUB.1⟩ h

/-- A grouping of a list in any order comes to the same as merging the list from left to right. -/
lemma Grouping.merge?_eq_ofList? {rules : UnionRules} {ts : List SqlType} {g : Grouping}
    (hpolicy : rules.policy = .defer) (h1 : 1 ≤ rules.maxPrecision)
    (h31 : rules.maxPrecision ≤ 31) (hts : ∀ t ∈ ts, t.WellFormed) (hne : ts ≠ [])
    (hperm : g.operands.Perm ts) :
    (g.merge? rules).map (fun x => (x.type, x.deferred)) =
      (ofList? rules ts).map (fun x => (x.type, x.deferred)) := by
  have hg : ∀ t ∈ g.operands, t.WellFormed := fun t ht => hts t (hperm.mem_iff.mp ht)
  have hfamilies := families_perm hperm
  have hlist := ofList?_eq_none_iff_of_defer hpolicy h1 h31 hts hne
  cases hx : g.merge? rules with
  | none =>
    have hunbounded := not_bddAbove_of_merge? hpolicy h1 h31 hg hx
    rw [hfamilies] at hunbounded
    rw [hlist.mpr hunbounded]
  | some x =>
    have hxs := unites_of_merge? hg hx
    cases hy : ofList? rules ts with
    | none =>
      refine absurd ⟨x.type.family, ?_⟩ (hlist.mp hy)
      rw [← hfamilies]
      exact hxs.isLUB.1
    | some y =>
      obtain ⟨htype, hdeferred⟩ := hxs.unique (unites_of_ofList? hts hy) hperm
      rw [Option.map_some, Option.map_some, htype, hdeferred]

/-- Under the policy to defer, neither the order of the operands nor their grouping into pairs
matters: every grouping of them in any order succeeds exactly when the unification of the list
does, and it comes to the same type and the same need to read strings. Inserting untyped operands
only makes the type nullable; an operand that does not fit stays the one that does not fit. -/
theorem unify_independent_of_grouping {rules : UnionRules} {ts : List SqlType}
    (hpolicy : rules.policy = .defer) (h1 : 1 ≤ rules.maxPrecision)
    (h31 : rules.maxPrecision ≤ 31) (hne : ts ≠ []) (hwf : ∀ t ∈ ts, t.WellFormed) :
    ∃ o, unify rules (ts.map some) = .ok o ∧
      (∀ g : Grouping, g.operands.Perm ts →
        g.union rules = .ok (o.type?.map fun t => (t, o.deferred))) ∧
      (∀ padded : List (Option SqlType), padded.reduceOption = ts → none ∈ padded →
        ∃ o', unify rules padded = .ok o' ∧ o'.type? = o.type?.map (·.withNullable true) ∧
          o'.deferred = o.deferred ∧ o'.clamped = o.clamped ∧
          (∀ m, o = .mismatch m → ∃ p, o' = .mismatch { m with position := p } ∧
            padded[p]? = some (some m.operand) ∧
            (padded.take p).reduceOption = ts.take m.position)) := by
  obtain ⟨o, ho, htype, hdeferred, hclamped⟩ := unify_map_some h1 h31 hwf
  refine ⟨o, ho, fun g hperm => ?_, fun padded hreduce hnone => ?_⟩
  · have hg : ∀ t ∈ g.operands, t.WellFormed := fun t ht => hwf t (hperm.mem_iff.mp ht)
    rw [g.union_eq h1 h31 hg, g.merge?_eq_ofList? hpolicy h1 h31 hwf hne hperm, htype, hdeferred]
    cases ofList? rules ts <;> rfl
  · obtain ⟨o', ho', htype', hdeferred', hclamped'⟩ := unify_of_none_mem h1 h31 hwf hreduce hnone
    refine ⟨o', ho', ?_, hdeferred'.trans hdeferred.symm, hclamped'.trans hclamped.symm, ?_⟩
    · rw [htype', htype, Option.map_map]
      rfl
    · rintro m rfl
      have hreduce' : padded.reduceOption = (ts.map some).reduceOption := by
        rw [hreduce, reduceOption_map_some]
      obtain ⟨p, hp, hoperand, hbefore⟩ := mismatch_of_reduceOption_eq hreduce' ho ho'
      rw [← List.map_take, reduceOption_map_some] at hbefore
      exact ⟨p, hp, hoperand, hbefore⟩

/-- The walk over the list clamps the precision in its first step. The grouping first clamps it with
another scale, and once more at the end. -/
theorem unify_independent_of_grouping_clamped :
    let a : SqlType := ⟨.decimal, 10, 8, 0, false⟩
    let b := fixed .bigInt
    let c : SqlType := ⟨.decimal, 3, 1, 0, false⟩
    let t : SqlType := ⟨.decimal, 12, 8, 0, true⟩
    (Grouping.pair (.pair (.operand c) (.operand b)) (.operand a)).union ⟨12, .defer⟩ =
        .ok (some (t, false)) ∧
      ∃ o, unify ⟨12, .defer⟩ [some a, none, some b, some c] = .ok o ∧ o.type? = some t := by
  intro a b c t
  obtain ⟨o, ho, hgrouping, hpadded⟩ :=
    @unify_independent_of_grouping ⟨12, .defer⟩ [a, b, c] rfl (by decide) (by decide) (by decide)
      (by decide)
  have hlist : (unify ⟨12, .defer⟩ ([a, b, c].map some)).toOption =
      some (.unified t false true) := by
    decide +kernel
  rw [ho] at hlist
  cases hlist
  obtain ⟨o', ho', htype, -⟩ := hpadded [some a, none, some b, some c] rfl (by decide)
  exact ⟨hgrouping _ (by decide), o', ho', htype⟩

end SqlTyping
