import Mathlib.Data.List.ReduceOption
import SqlTyping.Proofs.List
import SqlTyping.Proofs.Unification.Merge

/-!
# The outcome of unification

`unify` walks over a list of operands, some of which are untyped, and stops at the first one that
does not fit. `UnifiesTo` tells its outcome in terms of the typed operands alone: they are merged
from left to right, and if that fails, it fails at an operand in front of which it still succeeded.
The relation is what later modules use; they never look at the walk again.
-/

namespace SqlTyping

open SqlType Merged

/-- The type of merged operands, which untyped operands make nullable. -/
def Merged.typeAmong (operands : List (Option SqlType)) (x : Merged) : SqlType :=
  if none ∈ operands then x.type.withNullable true else x.type

namespace Merged

section

variable (operands : List (Option SqlType)) (x : Merged)

@[simp] lemma family_typeAmong : (x.typeAmong operands).family = x.type.family := by
  rw [typeAmong]
  split <;> rfl

@[simp] lemma precision_typeAmong : (x.typeAmong operands).precision = x.type.precision := by
  rw [typeAmong]
  split <;> rfl

@[simp] lemma scale_typeAmong : (x.typeAmong operands).scale = x.type.scale := by
  rw [typeAmong]
  split <;> rfl

@[simp] lemma length_typeAmong : (x.typeAmong operands).length = x.type.length := by
  rw [typeAmong]
  split <;> rfl

lemma nullable_typeAmong :
    (x.typeAmong operands).nullable = true ↔ none ∈ operands ∨ x.type.nullable = true := by
  rw [typeAmong]
  split
  · next hnone => exact iff_of_true rfl (Or.inl hnone)
  · next hnone => rw [or_iff_right hnone]

/-- Without untyped operands, the type stays as it is. -/
lemma typeAmong_map_some (ts : List SqlType) : x.typeAmong (ts.map some) = x.type :=
  if_neg (by simp)

end

end Merged

/-- Operands that are all typed are their own typed operands. -/
lemma reduceOption_map_some (ts : List SqlType) : (ts.map some).reduceOption = ts := by
  simp [List.reduceOption]

/-- The outcome of the unification of a list of operands. -/
inductive UnifiesTo (rules : UnionRules) (operands : List (Option SqlType)) :
    Except Crash UnionOutcome → Prop where
  /-- No operand has a type. -/
  | untyped (h : operands.reduceOption = []) : UnifiesTo rules operands (.ok .untyped)
  /-- The typed operands can be merged. -/
  | unified {x : Merged} (h : ofList? rules operands.reduceOption = some x) :
    UnifiesTo rules operands (.ok (.unified (x.typeAmong operands) x.deferred x.clamped))
  /-- The operands before `t` can be merged, but `t` does not fit. -/
  | mismatch {before after : List (Option SqlType)} {t : SqlType} {x : Merged}
    {reason : MismatchReason} (hsplit : operands = before ++ some t :: after)
    (hx : ofList? rules before.reduceOption = some x)
    (hpair : pairUnion rules x.type t = .refused reason) :
    UnifiesTo rules operands (.ok (.mismatch ⟨reason, before.length, x.type, t⟩))
  /-- The operands before `t` can be merged, but the union with `t` is out of range. -/
  | crash {before after : List (Option SqlType)} {t : SqlType} {x : Merged}
    {cause : AttributeError} (hsplit : operands = before ++ some t :: after)
    (hx : ofList? rules before.reduceOption = some x)
    (hpair : pairUnion rules x.type t = .broken cause) :
    UnifiesTo rules operands (.error (.failed (unionFailure x.type t cause)))

/-! ## The walk over the operands -/

/-- Whether the progress is what is known after the given operands. -/
structure UnionProgress.After (rules : UnionRules) (operands : List (Option SqlType))
    (s : UnionProgress) : Prop where
  untyped_iff : s.untyped = true ↔ none ∈ operands
  of_none : s.type = none →
    operands.reduceOption = [] ∧ s.deferred = false ∧ s.clamped = false
  of_some : ∀ t, s.type = some t →
    ofList? rules operands.reduceOption = some ⟨t, s.deferred, s.clamped⟩

namespace UnionProgress.After

variable {rules : UnionRules} {operands : List (Option SqlType)} {s : UnionProgress}

/-- Before the first operand nothing is known. -/
lemma start (rules : UnionRules) : After rules [] {} where
  untyped_iff := by simp
  of_none _ := ⟨rfl, rfl, rfl⟩
  of_some t h := by cases h

/-- An untyped operand is noted. -/
lemma skip (h : After rules operands s) :
    After rules (operands ++ [none]) { s with untyped := true } where
  untyped_iff := by simp
  of_none hs := by simpa [List.reduceOption_append] using h.of_none hs
  of_some t ht := by simpa [List.reduceOption_append] using h.of_some t ht

/-- The first typed operand is taken as it is. -/
lemma first (h : After rules operands s) (hs : s.type = none) (t : SqlType) :
    After rules (operands ++ [some t]) { s with type := some t } where
  untyped_iff := by simpa using h.untyped_iff
  of_none hs := by cases hs
  of_some u hu := by
    obtain ⟨hnil, hd, hc⟩ := h.of_none hs
    cases hu
    rw [List.reduceOption_append, hnil, hd, hc]
    rfl

/-- A further typed operand is joined to those before it. -/
lemma next (h : After rules operands s) {before t u : SqlType} {d c : Bool}
    (hs : s.type = some before) (hpair : pairUnion rules before t = .joined u d c) :
    After rules (operands ++ [some t])
      { s with type := some u, deferred := s.deferred || d, clamped := s.clamped || c } where
  untyped_iff := by simpa using h.untyped_iff
  of_none hs := by cases hs
  of_some v hv := by
    cases hv
    have hbefore := h.of_some before hs
    have hne : operands.reduceOption ≠ [] := by
      intro hnil
      rw [hnil] at hbefore
      cases hbefore
    rw [List.reduceOption_append, ofList?_append rules hne, hbefore]
    simp [extend?, join?, single, hpair]

end UnionProgress.After

/-- If no operand follows, the progress determines the outcome. -/
lemma UnionProgress.After.finish {rules : UnionRules} {operands : List (Option SqlType)}
    {s : UnionProgress} (h : s.After rules operands) :
    UnifiesTo rules operands (.ok s.finish) := by
  cases hs : s.type with
  | none =>
    rw [UnionProgress.finish, hs]
    exact .untyped (h.of_none hs).1
  | some t =>
    have hmerged := UnifiesTo.unified (h.of_some t hs)
    simpa only [UnionProgress.finish, hs, Merged.typeAmong, h.untyped_iff] using hmerged

/-- The walk from any point on leads to the outcome for all operands. -/
lemma unifiesTo_unifyFrom {rules : UnionRules} (rest : List (Option SqlType))
    {before : List (Option SqlType)} {s : UnionProgress} (h : s.After rules before) :
    UnifiesTo rules (before ++ rest) (unifyFrom rules before.length s rest) := by
  -- The walk moves one operand from `rest` to `before` and keeps their concatenation.
  induction rest generalizing before s with
  | nil =>
    rw [List.append_nil]
    exact h.finish
  | cons operand rest ih =>
    have hmove : before ++ operand :: rest = (before ++ [operand]) ++ rest := by simp
    have hposition : before.length + 1 = (before ++ [operand]).length := by simp
    cases operand with
    | none =>
      rw [unifyFrom, hposition, hmove]
      exact ih h.skip
    | some t =>
      rw [unifyFrom]
      cases hs : s.type with
      | none =>
        dsimp only
        rw [hposition, hmove]
        exact ih (h.first hs t)
      | some u =>
        dsimp only
        cases hpair : pairUnion rules u t with
        | joined v d c =>
          dsimp only
          rw [hposition, hmove]
          exact ih (h.next hs hpair)
        | refused reason => exact .mismatch rfl (h.of_some u hs) hpair
        | broken cause =>
          exact .crash (x := ⟨u, s.deferred, s.clamped⟩) rfl (h.of_some u hs) hpair

/-- The outcome of unification. -/
lemma unifiesTo_unify (rules : UnionRules) (operands : List (Option SqlType)) :
    UnifiesTo rules operands (unify rules operands) :=
  unifiesTo_unifyFrom operands (.start rules)

/-! ## The first failure -/

/-- Whether there are operands that cannot be merged. -/
def Merged.Stuck (rules : UnionRules) (ts : List SqlType) : Prop :=
  ts ≠ [] ∧ ofList? rules ts = none

/-! ## Reading off an outcome -/

section

variable {rules : UnionRules} {operands : List (Option SqlType)}

/-- Where unification succeeds, the typed operands have been merged. -/
lemma unify_eq_unified {t : SqlType} {d c : Bool}
    (h : unify rules operands = .ok (.unified t d c)) :
    ∃ x, ofList? rules operands.reduceOption = some x ∧ t = x.typeAmong operands ∧
      d = x.deferred ∧ c = x.clamped := by
  have hspec := unifiesTo_unify rules operands
  rw [h] at hspec
  cases hspec with
  | unified hx => exact ⟨_, hx, rfl, rfl, rfl⟩

/-- Typed operands that are well-formed are merged as well-formed types. -/
lemma wellFormed_reduceOption (hwf : ∀ t, some t ∈ operands → t.WellFormed) :
    ∀ t ∈ operands.reduceOption, t.WellFormed :=
  fun t ht => hwf t (List.reduceOption_mem_iff.mp ht)

/-- Where unification succeeds, its result is the union of the typed operands. -/
lemma unites_of_unify {t : SqlType} {d c : Bool} (hwf : ∀ t, some t ∈ operands → t.WellFormed)
    (h : unify rules operands = .ok (.unified t d c)) :
    ∃ x, Unites rules.maxPrecision operands.reduceOption x ∧ t = x.typeAmong operands ∧
      d = x.deferred ∧ c = x.clamped := by
  obtain ⟨x, hx, hresult⟩ := unify_eq_unified h
  exact ⟨x, unites_of_ofList? (wellFormed_reduceOption hwf) hx, hresult⟩

/-- Where unification fails, it fails at an operand in front of which it succeeds. -/
lemma unify_eq_mismatch {m : Mismatch} (h : unify rules operands = .ok (.mismatch m)) :
    ∃ before after x, operands = before ++ some m.operand :: after ∧
      ofList? rules before.reduceOption = some x ∧ m.before = x.type ∧
      m.position = before.length ∧ pairUnion rules m.before m.operand = .refused m.reason := by
  have hspec := unifiesTo_unify rules operands
  rw [h] at hspec
  cases hspec with
  | mismatch hsplit hx hpair => exact ⟨_, _, _, hsplit, hx, rfl, rfl, hpair⟩

/-- Once merging has failed, further operands do not help. -/
lemma Stuck.mono {ts us : List SqlType} (h : Stuck rules ts) (hpre : ts <+: us) :
    Stuck rules us := by
  obtain ⟨vs, rfl⟩ := hpre
  refine ⟨List.append_ne_nil_of_left_ne_nil h.1 vs, ?_⟩
  rw [ofList?_append rules h.1, h.2]
  rfl

/-- What can be merged is not stuck. -/
lemma not_stuck_of_ofList? {ts : List SqlType} {x : Merged} (hx : ofList? rules ts = some x) :
    ¬ Stuck rules ts := by
  intro h
  rw [h.2] at hx
  cases hx

/-- An operand that cannot be joined to those before it cannot be merged with them. -/
lemma ofList?_eq_none_of_join? {before after : List (Option SqlType)} {t : SqlType} {x : Merged}
    (hsplit : operands = before ++ some t :: after)
    (hx : ofList? rules before.reduceOption = some x) (hjoin : x.join? rules (single t) = none) :
    ofList? rules operands.reduceOption = none := by
  have hne : before.reduceOption ≠ [] := by
    intro hnil
    rw [hnil] at hx
    cases hx
  rw [hsplit, List.reduceOption_append, ofList?_append rules hne, hx, Option.bind_some,
    List.reduceOption_cons_of_some, extend?_cons, hjoin]
  rfl

/-- An operand that does not fit those before it cannot be merged with them. -/
lemma ofList?_eq_none_of_refused {before after : List (Option SqlType)} {t : SqlType} {x : Merged}
    {reason : MismatchReason} (hsplit : operands = before ++ some t :: after)
    (hx : ofList? rules before.reduceOption = some x)
    (hpair : pairUnion rules x.type t = .refused reason) :
    ofList? rules operands.reduceOption = none :=
  ofList?_eq_none_of_join? hsplit hx (by rw [join?, single, hpair])

/-- An operand whose union with those before it is out of range cannot be merged with them. -/
lemma ofList?_eq_none_of_broken {before after : List (Option SqlType)} {t : SqlType} {x : Merged}
    {cause : AttributeError} (hsplit : operands = before ++ some t :: after)
    (hx : ofList? rules before.reduceOption = some x)
    (hpair : pairUnion rules x.type t = .broken cause) :
    ofList? rules operands.reduceOption = none :=
  ofList?_eq_none_of_join? hsplit hx (by rw [join?, single, hpair])

/-- Where the typed operands can be merged, unification succeeds. -/
lemma unify_eq_of_ofList? {x : Merged} (hx : ofList? rules operands.reduceOption = some x) :
    unify rules operands = .ok (.unified (x.typeAmong operands) x.deferred x.clamped) := by
  have hspec := unifiesTo_unify rules operands
  generalize unify rules operands = r at hspec
  cases hspec with
  | untyped hnil =>
    rw [hnil] at hx
    cases hx
  | unified hy =>
    rw [hy] at hx
    cases hx
    rfl
  | mismatch hsplit hy hpair =>
    rw [ofList?_eq_none_of_refused hsplit hy hpair] at hx
    cases hx
  | crash hsplit hy hpair =>
    rw [ofList?_eq_none_of_broken hsplit hy hpair] at hx
    cases hx

/-- An operand that cannot be joined to those before it is the first one at which merging fails. -/
lemma stuck_of_join? {before : List (Option SqlType)} {t : SqlType} {x : Merged}
    (hx : ofList? rules before.reduceOption = some x) (hjoin : x.join? rules (single t) = none) :
    Stuck rules (before ++ [some t]).reduceOption :=
  ⟨by simp [List.reduceOption_append], ofList?_eq_none_of_join? rfl hx hjoin⟩

/-- The first operand that does not fit those before it determines the outcome. -/
lemma unify_eq_mismatch_of_refused {before : List (Option SqlType)} {t : SqlType} {x : Merged}
    {reason : MismatchReason} (hx : ofList? rules before.reduceOption = some x)
    (hpair : pairUnion rules x.type t = .refused reason) (after : List (Option SqlType)) :
    unify rules (before ++ some t :: after) =
      .ok (.mismatch ⟨reason, before.length, x.type, t⟩) := by
  have hstuck := stuck_of_join? hx (by rw [join?, single, hpair])
  have first : ∀ {before' after' : List (Option SqlType)} {t' : SqlType} {y : Merged},
      before ++ some t :: after = before' ++ some t' :: after' →
        ofList? rules before'.reduceOption = some y → y.join? rules (single t') = none →
          before = before' ∧ some t = some t' := by
    intro before' after' t' y hsplit hy hjoin
    exact List.eq_of_first_failure (fun hpre h => Stuck.mono h (List.IsPrefix.reduceOption hpre))
      hsplit (not_stuck_of_ofList? hx) (not_stuck_of_ofList? hy) hstuck (stuck_of_join? hy hjoin)
  have hspec := unifiesTo_unify rules (before ++ some t :: after)
  generalize unify rules (before ++ some t :: after) = r at hspec
  cases hspec with
  | untyped hnil => simp [List.reduceOption_append] at hnil
  | unified hy =>
    rw [ofList?_eq_none_of_refused rfl hx hpair] at hy
    cases hy
  | mismatch hsplit hy hpair' =>
    obtain ⟨rfl, hsome⟩ := first hsplit hy (by rw [join?, single, hpair'])
    cases hsome
    rw [hx] at hy
    cases hy
    rw [hpair] at hpair'
    cases hpair'
    rfl
  | crash hsplit hy hpair' =>
    obtain ⟨rfl, hsome⟩ := first hsplit hy (by rw [join?, single, hpair'])
    cases hsome
    rw [hx] at hy
    cases hy
    rw [hpair] at hpair'
    cases hpair'

/-- With a maximum precision that a type can have, unification of well-formed operands never
crashes, and it succeeds exactly when the typed operands can be merged. -/
lemma exists_unify_eq (h1 : 1 ≤ rules.maxPrecision) (h31 : rules.maxPrecision ≤ 31)
    (hwf : ∀ t, some t ∈ operands → t.WellFormed) :
    ∃ o, unify rules operands = .ok o ∧
      o.type? = (ofList? rules operands.reduceOption).map (Merged.typeAmong operands) ∧
      o.deferred = (ofList? rules operands.reduceOption).any Merged.deferred ∧
      o.clamped = (ofList? rules operands.reduceOption).any Merged.clamped := by
  have hspec := unifiesTo_unify rules operands
  generalize unify rules operands = r at hspec
  cases hspec with
  | untyped hnil =>
    rw [hnil]
    exact ⟨_, rfl, rfl, rfl, rfl⟩
  | unified hx =>
    rw [hx]
    exact ⟨_, rfl, rfl, rfl, rfl⟩
  | mismatch hsplit hx hpair =>
    rw [ofList?_eq_none_of_refused hsplit hx hpair]
    exact ⟨_, rfl, rfl, rfl, rfl⟩
  | @crash before after t x cause hsplit hx hpair =>
    subst hsplit
    have hbefore : ∀ u, some u ∈ before → u.WellFormed :=
      fun u hu => hwf u (List.mem_append_left _ hu)
    have ht : t.WellFormed := hwf t (List.mem_append_right before List.mem_cons_self)
    have hxwf := (unites_of_ofList? (wellFormed_reduceOption hbefore) hx).wellFormed
    exact absurd hpair (pairUnion_ne_broken h1 h31 hxwf ht cause)

/-- Where some typed operands cannot be merged, unification ends in a mismatch. -/
lemma unify_eq_mismatch_of_ofList? (h1 : 1 ≤ rules.maxPrecision) (h31 : rules.maxPrecision ≤ 31)
    (hwf : ∀ t, some t ∈ operands → t.WellFormed) (hne : operands.reduceOption ≠ [])
    (hnone : ofList? rules operands.reduceOption = none) :
    ∃ m, unify rules operands = .ok (.mismatch m) := by
  obtain ⟨o, ho, -⟩ := exists_unify_eq h1 h31 hwf
  have hspec := unifiesTo_unify rules operands
  rw [ho] at hspec
  cases hspec with
  | untyped hnil => exact absurd hnil hne
  | unified hx =>
    rw [hnone] at hx
    cases hx
  | mismatch => exact ⟨_, ho⟩

/-- The type of an outcome is that of the merged operands. -/
lemma type?_eq_of_unify (h1 : 1 ≤ rules.maxPrecision) (h31 : rules.maxPrecision ≤ 31)
    (hwf : ∀ t, some t ∈ operands → t.WellFormed) {o : UnionOutcome}
    (ho : unify rules operands = .ok o) :
    o.type? = (ofList? rules operands.reduceOption).map (Merged.typeAmong operands) := by
  obtain ⟨o', ho', htype, -⟩ := exists_unify_eq h1 h31 hwf
  rw [ho] at ho'
  cases ho'
  exact htype

/-! ## Untyped operands -/

/-- An operand that does not fit remains the one that does not fit if untyped operands are inserted
or removed; only its position changes. -/
lemma mismatch_of_reduceOption_eq {padded : List (Option SqlType)} {m : Mismatch} {o : UnionOutcome}
    (heq : padded.reduceOption = operands.reduceOption)
    (h : unify rules operands = .ok (.mismatch m)) (ho : unify rules padded = .ok o) :
    ∃ p, o = .mismatch { m with position := p } ∧ padded[p]? = some (some m.operand) ∧
      (padded.take p).reduceOption = (operands.take m.position).reduceOption := by
  obtain ⟨before, after, x, hsplit, hx, hbefore, hposition, hpair⟩ := unify_eq_mismatch h
  rw [hbefore] at hpair
  have hnone := ofList?_eq_none_of_refused hsplit hx hpair
  have hspec := unifiesTo_unify rules padded
  rw [ho] at hspec
  cases hspec with
  | untyped hnil =>
    rw [heq, hsplit, List.reduceOption_append, List.reduceOption_cons_of_some] at hnil
    simp at hnil
  | unified hy =>
    rw [heq, hnone] at hy
    cases hy
  | @mismatch before' after' t y reason hsplit' hy hpair' =>
    have hlists : before'.reduceOption ++ t :: after'.reduceOption =
        before.reduceOption ++ m.operand :: after.reduceOption := by
      rw [hsplit, hsplit'] at heq
      simpa [List.reduceOption_append] using heq
    have hstuck : ∀ {us : List (Option SqlType)} {u : SqlType} {z : Merged} {r : MismatchReason},
        ofList? rules us.reduceOption = some z → pairUnion rules z.type u = .refused r →
          Stuck rules (us.reduceOption ++ [u]) := by
      intro us u z r hz hr
      have hlast := stuck_of_join? hz (t := u) (by rw [join?, single, hr])
      rwa [List.reduceOption_append] at hlast
    obtain ⟨hprior, rfl⟩ := List.eq_of_first_failure (fun hpre h => Stuck.mono h hpre) hlists
      (not_stuck_of_ofList? hy) (not_stuck_of_ofList? hx) (hstuck hy hpair') (hstuck hx hpair)
    rw [hprior, hx] at hy
    cases hy
    rw [hpair] at hpair'
    cases hpair'
    refine ⟨before'.length, ?_, ?_, ?_⟩
    · rw [hbefore]
    · rw [hsplit', List.getElem?_append_right le_rfl, Nat.sub_self]
      rfl
    · rw [hsplit', hsplit, hposition, List.take_left, List.take_left, hprior]

/-- If all operands are typed, their types are merged as they are. -/
lemma unify_map_some {ts : List SqlType} (h1 : 1 ≤ rules.maxPrecision)
    (h31 : rules.maxPrecision ≤ 31) (hwf : ∀ t ∈ ts, t.WellFormed) :
    ∃ o, unify rules (ts.map some) = .ok o ∧ o.type? = (ofList? rules ts).map Merged.type ∧
      o.deferred = (ofList? rules ts).any Merged.deferred ∧
      o.clamped = (ofList? rules ts).any Merged.clamped := by
  have hsome : ∀ t, some t ∈ ts.map some → t.WellFormed := by simpa using hwf
  obtain ⟨o, ho, htype, hflags⟩ := exists_unify_eq h1 h31 hsome
  rw [funext (Merged.typeAmong_map_some · ts)] at htype
  rw [reduceOption_map_some] at htype hflags
  exact ⟨o, ho, htype, hflags⟩

/-- Untyped operands do nothing but make the type nullable. -/
lemma unify_of_none_mem {ts : List SqlType} (h1 : 1 ≤ rules.maxPrecision)
    (h31 : rules.maxPrecision ≤ 31) (hwf : ∀ t ∈ ts, t.WellFormed)
    (hreduce : operands.reduceOption = ts) (hnone : none ∈ operands) :
    ∃ o, unify rules operands = .ok o ∧
      o.type? = (ofList? rules ts).map (fun x => x.type.withNullable true) ∧
      o.deferred = (ofList? rules ts).any Merged.deferred ∧
      o.clamped = (ofList? rules ts).any Merged.clamped := by
  have hsome : ∀ t, some t ∈ operands → t.WellFormed := by
    intro t ht
    rw [← List.reduceOption_mem_iff, hreduce] at ht
    exact hwf t ht
  have hnullable : Merged.typeAmong operands = fun x => x.type.withNullable true :=
    funext fun x => if_pos hnone
  obtain ⟨o, ho, htype, hflags⟩ := exists_unify_eq h1 h31 hsome
  rw [hnullable] at htype
  rw [hreduce] at htype hflags
  exact ⟨o, ho, htype, hflags⟩

/-! ## COALESCE -/

/-- COALESCE has an outcome where there are at least two operands, one of which is typed. -/
lemma coalesce_eq_ok_iff {o : UnionOutcome} :
    coalesce rules operands = .ok o ↔
      2 ≤ operands.length ∧ unify rules operands = .ok o ∧ o ≠ .untyped := by
  unfold coalesce
  split
  · next hlt =>
    refine iff_of_false (fun h => ?_) fun h => by omega
    cases h
  · next hge =>
    rw [and_iff_right (not_lt.mp hge)]
    split
    · next hunify => simp [hunify]
    · next hunify =>
      refine iff_of_false (fun h => ?_) fun ⟨h, hne⟩ => ?_
      · cases h
      · rw [hunify] at h
        exact hne (Except.ok.inj h).symm
    · next hne hunify =>
      rw [hunify]
      constructor
      · intro h
        cases h
        exact ⟨rfl, hne⟩
      · rintro ⟨h, -⟩
        cases h
        rfl

/-- COALESCE of well-formed operands has an outcome or an error; it never crashes. -/
lemma coalesce_ne_crash (h1 : 1 ≤ rules.maxPrecision) (h31 : rules.maxPrecision ≤ 31)
    (hwf : ∀ t, some t ∈ operands → t.WellFormed) :
    (∃ d, coalesce rules operands = .error (.error d)) ∨
      ∃ o, coalesce rules operands = .ok o := by
  unfold coalesce
  split
  · exact Or.inl ⟨_, rfl⟩
  · obtain ⟨o, ho, -⟩ := exists_unify_eq h1 h31 hwf
    rw [ho]
    cases o with
    | untyped => exact Or.inl ⟨_, rfl⟩
    | unified t d c => exact Or.inr ⟨_, rfl⟩
    | mismatch m => exact Or.inr ⟨_, rfl⟩

end

end SqlTyping
