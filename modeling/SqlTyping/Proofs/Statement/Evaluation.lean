import SqlTyping.Proofs.Diagnostic
import SqlTyping.Proofs.Statement.Memo
import SqlTyping.Proofs.Unification.Soundness
import SqlTyping.Statement.Evaluation

/-!
# Evaluation of compiled statements

What is left to check when a compiled statement is evaluated depends on its decisions: a call must
not pass NULL to a parameter in its natural representation, strings that are merged into a datetime
type must represent values of it, and numeric constants must fit a DECIMAL type
(`Decision.Refuses`). Evaluation finds the operands to check in other ways: it walks the parameters
of the chosen overload, and the positions that unification listed. It checks the same operands,
since an overload has as many parameters as the call has operands, and since the listed positions
are those of all strings. No check is made beyond the end of a list or with a type of the wrong
family.
-/

namespace SqlTyping

/-! ## Refused operands -/

/-- Decisions that refuse an operand at a position, with a diagnostic. -/
inductive Decision.Refuses : Decision → Nat → Operand → Diagnostic → Prop where
  /-- NULL is passed to a parameter in its natural representation. -/
  | null {s : Signature} {position : Nat} {p : Param} (t : SqlType)
      (hparam : s.params[position]? = some p) (hkind : p.kind = .natural) :
      Refuses (.call s) position (.null t) ((ArgumentError.nullIntoNatural p).diagnostic s position)
  /-- A string that is merged into a datetime type does not represent a value. -/
  | datetime {t u : SqlType} (deferred : List Nat) (clamped : Bool) (position : Nat)
      {text : String} {cause : Diagnostic} (hstring : u.family.isCharacter)
      (hdatetime : t.family.isDatetime) (hparse : Datetime.parse t.family text = .error cause) :
      Refuses (.merge t deferred clamped) position (.constant text u) (.placed position cause)
  /-- A numeric constant that is merged into a DECIMAL type does not fit. -/
  | decimal {t u : SqlType} (deferred : List Nat) (clamped : Bool) (position : Nat)
      {text : String} {cause : Diagnostic} (hnumeric : u.family.isNumeric)
      (hdecimal : t.family = .decimal) (hparse : DecimalValue.parse t text = .error cause) :
      Refuses (.merge t deferred clamped) position (.constant text u) (.placed position cause)

/-- Whether a decision refuses none of the operands. -/
def Decision.Admits (d : Decision) (ops : List Operand) : Prop :=
  ∀ p o, ops[p]? = some o → ∀ cause, ¬ d.Refuses p o cause

/-- Whether a decision refuses the operand at a position and none before it. -/
def Decision.RefusesFirst (d : Decision) (ops : List Operand) (position : Nat)
    (cause : Diagnostic) : Prop :=
  (∃ o, ops[position]? = some o ∧ d.Refuses position o cause) ∧ d.Admits (ops.take position)

/-- The codes of failed evaluations. -/
def evaluationCodes : List String := ["39004", "22007", "22008", "22003", "22018"]

/-- What a diagnostic of a failed evaluation says: the operand and one of five codes. -/
structure Diagnostic.Blames (d : Diagnostic) (position : Nat) : Prop where
  position : d.position? = some position
  code : d.state.text ∈ evaluationCodes
  external : d.isInternal = false

section Refuses

variable {d : Decision} {position : Nat} {o : Operand} {cause : Diagnostic}

/-- Strings are refused for their form or for a field. -/
lemma Datetime.of_parse_eq_error {f : Family} (hf : f.isDatetime) {text : String}
    (h : parse f text = .error cause) :
    cause.isInternal = false ∧ ∃ s, cause.ownState? = some s ∧ s.text ∈ evaluationCodes := by
  have hforms : ∃ forms, forms? f = some forms := by
    revert hf
    cases f <;> first | exact fun _ => ⟨_, rfl⟩ | exact fun hf => absurd hf (by decide)
  obtain ⟨forms, hforms⟩ := hforms
  unfold parse read at h
  rw [hforms] at h
  simp only at h
  split at h
  · cases h
    exact ⟨rfl, _, rfl, by decide⟩
  · split at h
    · cases h
      exact ⟨rfl, _, rfl, by decide⟩
    · cases h

/-- Constants are refused because they are no numbers or too large. -/
lemma DecimalValue.of_parse_eq_error {t : SqlType} (ht : t.family = .decimal) {text : String}
    (h : parse t text = .error cause) :
    cause.isInternal = false ∧ ∃ s, cause.ownState? = some s ∧ s.text ∈ evaluationCodes := by
  unfold parse at h
  split at h
  · cases h
    refine ⟨?_, .invalidCharacterValue, ?_, by decide⟩ <;> unfold Diagnostic.wrap <;> split <;> rfl
  · unfold limit at h
    rw [if_neg (fun hne => hne ht)] at h
    split at h
    · split at h
      · cases h
      · cases h
        exact ⟨rfl, _, rfl, by decide⟩
    · cases h

/-- The diagnostic for a refused operand blames the operand. -/
lemma Decision.Refuses.blames (h : d.Refuses position o cause) : cause.Blames position := by
  have hplaced : ∀ {cause : Diagnostic}, (cause.isInternal = false ∧
      ∃ s, cause.ownState? = some s ∧ s.text ∈ evaluationCodes) →
        (Diagnostic.placed position cause).Blames position := by
    rintro cause ⟨hexternal, s, hs, hcode⟩
    exact ⟨rfl, (Diagnostic.state_of_ownState? (d := .placed position cause) hs hexternal).symm ▸
      hcode, hexternal⟩
  cases h with
  | null t hparam hkind =>
    exact hplaced ⟨rfl, .nullIntoNatural, rfl, by decide⟩
  | datetime _ _ _ hstring hdatetime hparse =>
    exact hplaced (Datetime.of_parse_eq_error hdatetime hparse)
  | decimal _ _ _ hnumeric hdecimal hparse =>
    exact hplaced (DecimalValue.of_parse_eq_error hdecimal hparse)

lemma Diagnostic.Blames.inContext {d : Diagnostic} (h : d.Blames position) (name : String)
    (i : Nat) : (expressionContext name i d).Blames position :=
  ⟨h.position, h.code, h.external⟩

end Refuses

/-! ## First failures -/

section First

variable {α : Type} {check : Nat → α → Option Diagnostic}

/-- Either no entry fails, or the first one that does determines the failure. -/
lemma firstFailure_cases (check : Nat → α → Option Diagnostic) (position : Nat) (xs : List α) :
    firstFailure check position xs = none ∧
        (∀ i x, xs[i]? = some x → check (position + i) x = none) ∨
      ∃ i x d, xs[i]? = some x ∧ check (position + i) x = some d ∧
        firstFailure check position xs = some d ∧
        ∀ j y, (xs.take i)[j]? = some y → check (position + j) y = none := by
  induction xs generalizing position with
  | nil => exact .inl ⟨rfl, nofun⟩
  | cons x xs ih =>
    cases hx : check position x with
    | some d => exact .inr ⟨0, x, d, rfl, hx, by rw [firstFailure, hx]; rfl, nofun⟩
    | none =>
      have hstep : firstFailure check position (x :: xs) =
          firstFailure check (position + 1) xs := by rw [firstFailure, hx, Option.none_or]
      have hcons : ∀ {ys : List α}, (∀ j y, ys[j]? = some y → check (position + 1 + j) y = none) →
          ∀ j y, (x :: ys)[j]? = some y → check (position + j) y = none := by
        intro ys hys j y hy
        cases j with
        | zero =>
          cases hy
          exact hx
        | succ j =>
          rw [Nat.add_comm j 1, ← Nat.add_assoc]
          exact hys j y hy
      rcases ih (position + 1) with ⟨hnone, hall⟩ | ⟨i, y, d, hy, hd, hfirst, hbefore⟩
      · exact .inl ⟨hstep.trans hnone, hcons hall⟩
      · refine .inr ⟨i + 1, y, d, hy, ?_, hstep.trans hfirst, ?_⟩
        · rw [Nat.add_comm i 1, ← Nat.add_assoc]
          exact hd
        · rw [List.take_succ_cons]
          exact hcons hbefore

/-- Either no operand at the given positions fails, or the first one that does determines the
failure. -/
lemma firstFailureAt_cases (check : Nat → Operand → Option Diagnostic) {ops : List Operand}
    {positions : List Nat} (hascending : positions.Pairwise (· < ·))
    (hrange : ∀ p ∈ positions, p < ops.length) :
    firstFailureAt check ops positions = none ∧
        (∀ p ∈ positions, ∀ o, ops[p]? = some o → check p o = none) ∨
      ∃ p ∈ positions, ∃ o d, ops[p]? = some o ∧ check p o = some d ∧
        firstFailureAt check ops positions = some (.error d) ∧
        ∀ q ∈ positions, q < p → ∀ o, ops[q]? = some o → check q o = none := by
  induction hascending with
  | nil => exact .inl ⟨rfl, nofun⟩
  | @cons p positions hlater _ ih =>
    rw [List.forall_mem_cons] at hrange
    have hp : ops[p]? = some ops[p] := List.getElem?_eq_getElem hrange.1
    cases hcheck : check p ops[p] with
    | some d =>
      refine .inr ⟨p, List.mem_cons_self, _, d, hp, hcheck, ?_, ?_⟩
      · rw [firstFailureAt, hp]
        simp only [hcheck, Option.map_some, Option.some_or]
      · intro q hq hlt
        rcases List.mem_cons.mp hq with rfl | hq
        · exact absurd hlt (Nat.lt_irrefl q)
        · exact absurd hlt (Nat.not_lt.mpr (hlater q hq).le)
    | none =>
      have hstep : firstFailureAt check ops (p :: positions) =
          firstFailureAt check ops positions := by
        rw [firstFailureAt, hp]
        simp only [hcheck, Option.map_none, Option.none_or]
      have hself : ∀ o, ops[p]? = some o → check p o = none := by
        intro o ho
        rw [hp] at ho
        cases ho
        exact hcheck
      rcases ih hrange.2 with ⟨hnone, hall⟩ | ⟨q, hq, o, d, ho, hd, hfirst, hbefore⟩
      · exact .inl ⟨hstep.trans hnone, List.forall_mem_cons.mpr ⟨hself, hall⟩⟩
      · refine .inr ⟨q, List.mem_cons_of_mem p hq, o, d, ho, hd, hstep.trans hfirst, ?_⟩
        exact List.forall_mem_cons.mpr ⟨fun _ => hself, hbefore⟩

end First

/-! ## Expressions -/

section Expressions

variable {ops : List Operand}

/-- A check over all operands that tells what a decision refuses. -/
lemma firstFailure_eq_refusal (d : Decision) (check : Nat → Operand → Option Diagnostic)
    (hcheck : ∀ p o, ops[p]? = some o → ∀ cause, d.Refuses p o cause ↔ check p o = some cause) :
    firstFailure check 0 ops = none ∧ d.Admits ops ∨
      ∃ p cause, d.RefusesFirst ops p cause ∧ firstFailure check 0 ops = some cause := by
  have hadmits : ∀ {p o}, ops[p]? = some o → check (0 + p) o = none →
      ∀ cause, ¬ d.Refuses p o cause := by
    intro p o ho hnone cause hrefuses
    rw [Nat.zero_add, (hcheck p o ho cause).mp hrefuses] at hnone
    cases hnone
  rcases firstFailure_cases check 0 ops with ⟨hnone, hall⟩ | ⟨p, o, cause, ho, hp, hfirst, hbefore⟩
  · exact .inl ⟨hnone, fun p o ho => hadmits ho (hall p o ho)⟩
  · rw [Nat.zero_add] at hp
    refine .inr ⟨p, cause, ⟨⟨o, ho, (hcheck p o ho cause).mpr hp⟩, ?_⟩, hfirst⟩
    intro q o' ho'
    exact hadmits (List.getElem?_take_eq_some_iff.mp ho').2 (hbefore q o' ho')

/-- A check over the operands at some positions that tells what a decision refuses. -/
lemma firstFailureAt_eq_refusal (d : Decision) (check : Nat → Operand → Option Diagnostic)
    {positions : List Nat} (hascending : positions.Pairwise (· < ·))
    (hrange : ∀ p ∈ positions, p < ops.length)
    (hcheck : ∀ p o, ops[p]? = some o → ∀ cause,
      d.Refuses p o cause ↔ p ∈ positions ∧ check p o = some cause) :
    firstFailureAt check ops positions = none ∧ d.Admits ops ∨
      ∃ p cause, d.RefusesFirst ops p cause ∧
        firstFailureAt check ops positions = some (.error cause) := by
  rcases firstFailureAt_cases check hascending hrange with
    ⟨hnone, hall⟩ | ⟨p, hp, o, cause, ho, hcause, hfirst, hbefore⟩
  · refine .inl ⟨hnone, fun p o ho cause hrefuses => ?_⟩
    obtain ⟨hp, hcause⟩ := (hcheck p o ho cause).mp hrefuses
    rw [hall p hp o ho] at hcause
    cases hcause
  · refine .inr ⟨p, cause, ⟨⟨o, ho, (hcheck p o ho cause).mpr ⟨hp, hcause⟩⟩, ?_⟩, hfirst⟩
    intro q o' ho' cause' hrefuses
    obtain ⟨hlt, ho'⟩ := List.getElem?_take_eq_some_iff.mp ho'
    obtain ⟨hq, hcause'⟩ := (hcheck q o' ho' cause').mp hrefuses
    rw [hbefore q hq hlt o' ho'] at hcause'
    cases hcause'

/-- Passing an argument fails if the call refuses it. -/
lemma refuses_call_iff {s : Signature} {p : Nat} (hp : p < s.arity) (o : Operand)
    (cause : Diagnostic) :
    (Decision.call s).Refuses p o cause ↔ argumentFailure? s p o = some cause := by
  have hparam : s.params[p]? = some s.params[p] := List.getElem?_eq_getElem hp
  have hchecked : s.checkArgument p o.isNull =
      if o.isNull ∧ s.params[p].kind = .natural then .error (.nullIntoNatural s.params[p])
      else .ok () := by
    rw [Signature.checkArgument, if_neg (by omega), Int.toNat_natCast, hparam]
  rw [argumentFailure?, hchecked]
  constructor
  · rintro (⟨t, hq, hkind⟩)
    rw [hparam] at hq
    cases hq
    rw [if_pos ⟨rfl, hkind⟩]
  · intro h
    split at h
    · cases h
    · next e he =>
      split at he
      · next hnull =>
        cases he
        cases h
        cases o with
        | null t => exact .null t hparam hnull.2
        | _ => cases hnull.1
      · cases he

/-- Among merges into a datetime type, strings that do not represent a value are refused. -/
lemma refuses_datetime_iff {t : SqlType} {deferred : List Nat} {clamped : Bool}
    (ht : t.family.isDatetime) {p : Nat} {o : Operand} {cause : Diagnostic} :
    (Decision.merge t deferred clamped).Refuses p o cause ↔
      (∃ u, o.type? = some u ∧ u.family.isCharacter) ∧ datetimeFailure? t p o = some cause := by
  have hdecimal : t.family ≠ .decimal := fun hd => absurd (hd ▸ ht) (by decide)
  constructor
  · rintro (_ | ⟨_, _, _, hstring, _, hparse⟩ | ⟨_, _, _, _, hd, _⟩)
    · refine ⟨⟨_, rfl, hstring⟩, ?_⟩
      simp only [datetimeFailure?, Operand.constant?, hparse]
    · exact absurd hd hdecimal
  · rintro ⟨⟨u, hu, hstring⟩, h⟩
    cases o with
    | constant text v =>
      cases hu
      simp only [datetimeFailure?, Operand.constant?] at h
      split at h
      · cases h
      · next hparse =>
        cases h
        exact .datetime deferred clamped p hstring ht hparse
    | _ => cases h

/-- Among merges into a DECIMAL type, numeric constants that do not fit are refused. -/
lemma refuses_decimal_iff {t : SqlType} {deferred : List Nat} {clamped : Bool}
    (ht : t.family = .decimal) {p : Nat} {o : Operand} {cause : Diagnostic} :
    (Decision.merge t deferred clamped).Refuses p o cause ↔
      decimalFailure? t p o = some cause := by
  have hdatetime : ¬ t.family.isDatetime := by
    rw [ht]
    decide
  constructor
  · rintro (_ | ⟨_, _, _, _, hd, _⟩ | ⟨_, _, _, hnumeric, _, hparse⟩)
    · exact absurd hd hdatetime
    · simp only [decimalFailure?, hnumeric, if_true, hparse]
  · intro h
    cases o with
    | constant text v =>
      simp only [decimalFailure?] at h
      split at h
      · next hnumeric =>
        split at h
        · cases h
        · next hparse =>
          cases h
          exact .decimal deferred clamped p hnumeric ht hparse
      · cases h
    | _ => cases h

/-- Whether an expression fails as its decision demands: at the first operand that is refused, or
not at all. -/
def Expression.FailsAsDecided (e : Expression) : Prop :=
  e.failure? = none ∧ e.decision.Admits e.site.operands ∨
    ∃ p cause, e.decision.RefusesFirst e.site.operands p cause ∧
      e.failure? = some (.error cause)

/-- A call with as many operands as parameters. -/
lemma failsAsDecided_call (name : String) (context : ReturnContext) (host : Option HostSignature)
    {s : Signature} (harity : s.arity = ops.length) :
    Expression.FailsAsDecided ⟨.call name ops context host, .call s⟩ := by
  have hcheck : ∀ p o, ops[p]? = some o → ∀ cause,
      (Decision.call s).Refuses p o cause ↔ argumentFailure? s p o = some cause :=
    fun p o ho => refuses_call_iff (harity ▸ (List.getElem?_eq_some_iff.mp ho).1) o
  rcases firstFailure_eq_refusal _ _ hcheck with ⟨hnone, hadmits⟩ | ⟨p, cause, hfirst, hcause⟩
  · exact .inl ⟨by simp [Expression.failure?, hnone], hadmits⟩
  · exact .inr ⟨p, cause, hfirst, by simp [Expression.failure?, hcause]⟩

/-- A merge whose deferred operands are its strings, if the type is for datetimes. -/
lemma failsAsDecided_merge (keyword : MergeKeyword) (clamped : Bool) {t : SqlType}
    {deferred : List Nat} (hascending : deferred.Pairwise (· < ·))
    (hdeferred : ∀ p, p ∈ deferred ↔ t.family.isDatetime ∧
      ∃ u, (ops.map Operand.type?)[p]? = some (some u) ∧ u.family.isCharacter) :
    Expression.FailsAsDecided ⟨.merge keyword ops, .merge t deferred clamped⟩ := by
  by_cases hdatetime : t.family.isDatetime
  · have hdecimal : t.family ≠ .decimal := fun hd => absurd (hd ▸ hdatetime) (by decide)
    have hrange : ∀ p ∈ deferred, p < ops.length := by
      intro p hp
      obtain ⟨-, u, hu, -⟩ := (hdeferred p).mp hp
      simpa using (List.getElem?_eq_some_iff.mp hu).1
    have hcheck : ∀ p o, ops[p]? = some o → ∀ cause,
        (Decision.merge t deferred clamped).Refuses p o cause ↔
          p ∈ deferred ∧ datetimeFailure? t p o = some cause := by
      intro p o ho cause
      rw [refuses_datetime_iff hdatetime, hdeferred, List.getElem?_map, ho]
      simp [hdatetime]
    rcases firstFailureAt_eq_refusal _ _ hascending hrange hcheck with
      ⟨hnone, hadmits⟩ | ⟨p, cause, hfirst, hcause⟩
    · exact .inl ⟨by simp [Expression.failure?, hnone, hdecimal], hadmits⟩
    · exact .inr ⟨p, cause, hfirst, by simp [Expression.failure?, hcause]⟩
  · have hempty : deferred = [] :=
      List.eq_nil_iff_forall_not_mem.mpr fun p hp => hdatetime ((hdeferred p).mp hp).1
    subst hempty
    by_cases hdecimal : t.family = .decimal
    · have hcheck : ∀ p o, ops[p]? = some o → ∀ cause,
          (Decision.merge t [] clamped).Refuses p o cause ↔ decimalFailure? t p o = some cause :=
        fun p o _ cause => refuses_decimal_iff hdecimal
      rcases firstFailure_eq_refusal _ _ hcheck with
        ⟨hnone, hadmits⟩ | ⟨p, cause, hfirst, hcause⟩
      · exact .inl ⟨by simp [Expression.failure?, firstFailureAt, hnone], hadmits⟩
      · exact .inr ⟨p, cause, hfirst,
          by simp [Expression.failure?, firstFailureAt, hdecimal, hcause]⟩
    · refine .inl ⟨by simp [Expression.failure?, firstFailureAt, hdecimal], ?_⟩
      rintro p o - cause (_ | ⟨_, _, _, _, hd, _⟩ | ⟨_, _, _, _, hd, _⟩)
      · exact hdatetime hd
      · exact hdecimal hd

end Expressions

/-! ## Sites -/

namespace Site

variable {env : Environment}

/-- A call that is decided takes an overload with as many parameters as it has operands. -/
lemma exists_arity_of_decide {name : String} {ops : List Operand} {context : ReturnContext}
    {host : Option HostSignature} {d : Decision}
    (h : (call name ops context host).decide env = .ok d) :
    ∃ s, d = .call s ∧ s.arity = ops.length := by
  rw [decide_call] at h
  obtain ⟨o, ho, hd⟩ := Except.bind_eq_ok_iff.mp h
  cases o with
  | resolved s r =>
    cases hd
    refine ⟨s, rfl, ?_⟩
    cases host with
    | none => simpa using (applies_of_resolve ho).2.arity
    | some host =>
      obtain ⟨harity, hcount⟩ := arity_of_resolveExplicit ho
      have hlength : ops.length = host.length := by simpa [miscounts] using hcount
      rw [harity, hlength]
  | ambiguous cs r p => cases hd
  | unresolvable p => cases hd
  | ineligible => cases hd

/-- A merge that is decided defers its strings, if its type is for datetimes. -/
lemma exists_deferred_of_decide {keyword : MergeKeyword} {ops : List Operand} {d : Decision}
    (hs : (merge keyword ops).WellFormed) (h : (merge keyword ops).decide env = .ok d) :
    ∃ t deferred clamped, d = .merge t deferred clamped ∧ deferred.Pairwise (· < ·) ∧
      ∀ p, p ∈ deferred ↔ t.family.isDatetime ∧
        ∃ u, (ops.map Operand.type?)[p]? = some (some u) ∧ u.family.isCharacter := by
  unfold Site.decide at h
  obtain ⟨o, ho, hd⟩ := Except.bind_eq_ok_iff.mp h
  cases o with
  | untyped => cases hd
  | mismatch m => cases hd
  | unified t deferred clamped =>
    cases hd
    obtain ⟨-, hunify, -⟩ := coalesce_eq_ok_iff.mp ho
    obtain ⟨x, hx, rfl, rfl, rfl⟩ := unites_of_unify hs.operandTypes hunify
    have hfamily := Merged.family_typeAmong (merge keyword ops).operandTypes x
    refine ⟨_, _, _, rfl, UnionOutcome.pairwise_deferredPositions, fun p => ?_⟩
    refine (mem_deferredPositions_unified hx hfamily).trans ?_
    simp only [SqlType.isReadAs_iff, hfamily]
    constructor
    · rintro ⟨u, hu, hreads⟩
      obtain ⟨hstring, hdatetime⟩ := Family.readsAs_iff.mp hreads
      refine ⟨hdatetime, u, hu, ?_⟩
      rcases hstring with hf | hf <;> rw [hf] <;> rfl
    · rintro ⟨hdatetime, u, hu, hstring⟩
      have hmem : u ∈ (ops.map Operand.type?).reduceOption :=
        List.reduceOption_mem_iff.mpr (List.mem_of_getElem? hu)
      exact ⟨u, hu, Family.readsAs_of_isCharacter (hx.le_family hmem) hstring hdatetime⟩

/-- Expressions with the decision for their site fail as decided. -/
lemma failsAsDecided {s : Site} (hs : s.WellFormed) {d : Decision} (h : s.decide env = .ok d) :
    Expression.FailsAsDecided ⟨s, d⟩ := by
  cases s with
  | call name ops context host =>
    obtain ⟨signature, rfl, harity⟩ := exists_arity_of_decide h
    exact failsAsDecided_call name context host harity
  | merge keyword ops =>
    obtain ⟨t, deferred, clamped, rfl, hascending, hdeferred⟩ := exists_deferred_of_decide hs h
    exact failsAsDecided_merge keyword clamped hascending hdeferred

end Site

/-! ## Statements -/

/-- Either no expression fails, or the first one that does determines the failure. -/
lemma firstFailing_cases (position : Nat) (es : List Expression) :
    firstFailing position (es.map .expression) = none ∧ (∀ e ∈ es, e.failure? = none) ∨
      ∃ i e a, es[i]? = some e ∧ e.failure? = some a ∧
        firstFailing position (es.map .expression) = some (position + i, e.site.render, a) ∧
        ∀ e' ∈ es.take i, e'.failure? = none := by
  induction es generalizing position with
  | nil => exact .inl ⟨rfl, List.forall_mem_nil _⟩
  | cons e es ih =>
    cases he : e.failure? with
    | some a =>
      refine .inr ⟨0, e, a, rfl, he, ?_, List.forall_mem_nil _⟩
      simp [firstFailing, Evaluand.failure?, Evaluand.text, he]
    | none =>
      have hstep : firstFailing position ((e :: es).map .expression) =
          firstFailing (position + 1) (es.map .expression) := by
        simp [firstFailing, Evaluand.failure?, he]
      rcases ih (position + 1) with ⟨hnone, hall⟩ | ⟨i, e', a, he', ha, hfirst, hbefore⟩
      · exact .inl ⟨hstep.trans hnone, List.forall_mem_cons.mpr ⟨he, hall⟩⟩
      · refine .inr ⟨i + 1, e', a, he', ha, ?_, ?_⟩
        · rw [hstep, hfirst, Nat.add_assoc, Nat.add_comm 1 i]
        · rw [List.take_succ_cons]
          exact List.forall_mem_cons.mpr ⟨he, hbefore⟩

/-- Whether a site is decided and its decision admits all operands. -/
def Site.Admitted (env : Environment) (s : Site) : Prop :=
  ∃ d, s.decide env = .ok d ∧ d.Admits s.operands

/-- An expression with the decision for its site fails unless all operands are admitted. -/
lemma Expression.FailsAsDecided.eq_none_iff {env : Environment} {e : Expression}
    (h : e.FailsAsDecided) (hdecide : e.site.decide env = .ok e.decision) :
    e.failure? = none ↔ e.site.Admitted env := by
  have hadmitted : e.site.Admitted env ↔ e.decision.Admits e.site.operands := by
    constructor
    · rintro ⟨d, hd, hadmits⟩
      rw [hdecide] at hd
      exact Except.ok.inj hd ▸ hadmits
    · exact fun hadmits => ⟨e.decision, hdecide, hadmits⟩
  rw [hadmitted]
  rcases h with ⟨hnone, hadmits⟩ | ⟨p, cause, ⟨⟨o, ho, hrefuses⟩, -⟩, hcause⟩
  · exact iff_of_true hnone hadmits
  · refine iff_of_false (fun hnone => ?_) fun hadmits => hadmits p o ho cause hrefuses
    rw [hnone] at hcause
    cases hcause

/-- The expressions of a compiled statement are its sites with their decisions. -/
lemma exists_expressions_of_compile {stmt : Statement} {env : Environment} {c : Compiled}
    (hsites : ∀ s ∈ stmt.sites, s.WellFormed) (h : stmt.compile env = .ok c) :
    c.name = stmt.name ∧ stmt.sites = c.expressions.map Expression.site ∧
      ∀ e ∈ c.expressions, e.site.decide env = .ok e.decision := by
  rw [Statement.compile_eq hsites, Except.map_eq_ok_iff] at h
  obtain ⟨es, hes, rfl⟩ := h
  have hforall := decideFrom_eq_ok_iff.mp hes
  refine ⟨rfl, ?_⟩
  clear hsites hes
  generalize stmt.sites = sites at hforall ⊢
  induction hforall with
  | nil => exact ⟨rfl, List.forall_mem_nil _⟩
  | cons hhead _ ih =>
    obtain ⟨hmap, hall⟩ := ih
    refine ⟨?_, List.forall_mem_cons.mpr ⟨?_, hall⟩⟩
    · rw [List.map_cons, hhead.1, ← hmap]
    · rw [hhead.1]
      exact hhead.2

/-- Evaluating a compiled statement succeeds exactly if the decision for each of its sites, repeated
ones included, admits all operands. Otherwise it fails at the first site for which this is not so,
with the diagnostic of the first operand that is refused. It never crashes, and the diagnostic names
the operand, has one of five codes and is not internal. -/
theorem evaluate_eq_none_iff_admitted {name text : String} {stmt : Statement} {env : Environment}
    {c : Compiled} (hstmt : Statement.parse name text = .ok stmt)
    (hcompile : stmt.compile env = .ok c) :
    (c.evaluate = none ↔ ∀ s ∈ stmt.sites, s.Admitted env) ∧
      ∀ a, c.evaluate = some a → ∃ i s d p cause,
        (stmt.sites[i]? = some s ∧ ∀ t ∈ stmt.sites.take i, t.Admitted env) ∧
        (s.decide env = .ok d ∧ d.RefusesFirst s.operands p cause) ∧
        a = .error (expressionContext stmt.name i cause) ∧
        (expressionContext stmt.name i cause).Blames p := by
  have hsites := Statement.wellFormed_of_parse hstmt
  obtain ⟨hname, hexpressions, hdecided⟩ := exists_expressions_of_compile hsites hcompile
  have hfails : ∀ e ∈ c.expressions, e.FailsAsDecided := fun e he =>
    Site.failsAsDecided (hsites e.site (hexpressions ▸ List.mem_map_of_mem he)) (hdecided e he)
  have hadmitted : ∀ e ∈ c.expressions, e.failure? = none ↔ e.site.Admitted env := fun e he =>
    (hfails e he).eq_none_iff (hdecided e he)
  rw [Compiled.evaluate, evaluate, Compiled.evaluands, hexpressions, List.forall_mem_map, hname]
  rcases firstFailing_cases 0 c.expressions with
    ⟨hnone, hall⟩ | ⟨i, e, a, he, ha, hfirst, hbefore⟩
  · rw [hnone]
    refine ⟨iff_of_true rfl fun e he => (hadmitted e he).mp (hall e he), ?_⟩
    rintro a ⟨⟩
  · have hmem : e ∈ c.expressions := List.mem_of_getElem? he
    rw [hfirst, Nat.zero_add, Option.map_some]
    refine ⟨iff_of_false nofun fun hall => ?_, ?_⟩
    · rw [(hadmitted e hmem).mpr (hall e hmem)] at ha
      cases ha
    · rintro _ ⟨⟩
      rcases hfails e hmem with ⟨hnone, -⟩ | ⟨p, cause, hrefuses, hcause⟩
      · rw [hnone] at ha
        cases ha
      · rw [hcause] at ha
        cases ha
        obtain ⟨o, -, ho⟩ := hrefuses.1
        refine ⟨i, e.site, e.decision, p, cause, ⟨by rw [List.getElem?_map, he]; rfl, ?_⟩,
          ⟨hdecided e hmem, hrefuses⟩, rfl, ho.blames.inContext stmt.name i⟩
        rw [← List.map_take, List.forall_mem_map]
        intro e' he'
        exact (hadmitted e' (List.mem_of_mem_take he')).mp (hbefore e' he')

/-- A date that is written twice passes; NULL behind it does not, as the second parameter is in its
natural representation. -/
theorem evaluate_eq_none_iff_admitted_null :
    let integer : SqlType := ⟨.integer, 10, 0, 0, true⟩
    let f : Signature := ⟨"f", "f", [⟨"x", integer, .any⟩, ⟨"y", integer, .natural⟩], none⟩
    let date : SqlType := (SqlType.fixed .date).withNullable true
    let leap : Site :=
      .merge .value [.typed date, .constant "2024-02-29" ⟨.varchar, 0, 0, 10, true⟩]
    let stmt : Statement := ⟨"q", [leap, leap, .call "f" [.null integer, .null integer] {} none]⟩
    let env : Environment := ⟨Engine.defaults, ⟨[⟨"F", 2, 0, f⟩], 1, 1⟩⟩
    Statement.parse "q" ("value(DATE, '2024-02-29'::VARCHAR(10))\n" ++
        "value(DATE, '2024-02-29'::VARCHAR(10))\ncall f(NULL::INTEGER, NULL::INTEGER)") = .ok stmt ∧
      ∃ c, stmt.compile env = .ok c ∧ c.evaluate ≠ none ∧
        ∀ a, c.evaluate = some a → ∃ d p, a = .error d ∧ d.Blames p := by
  intro integer f date leap stmt env
  have hstmt : Statement.parse "q" ("value(DATE, '2024-02-29'::VARCHAR(10))\n" ++
      "value(DATE, '2024-02-29'::VARCHAR(10))\ncall f(NULL::INTEGER, NULL::INTEGER)") = .ok stmt :=
    Except.eq_ok_of_toOption (by decide +kernel)
  have hcompile : (stmt.compile env).toOption.isSome = true := by decide +kernel
  obtain ⟨c, hc⟩ := Option.isSome_iff_exists.mp hcompile
  have hc := Except.eq_ok_of_toOption hc
  have hdecide : (Site.call "f" [.null integer, .null integer] {} none).decide env =
      .ok (.call f) := Except.eq_ok_of_toOption (by decide +kernel)
  obtain ⟨hnone, hsome⟩ := evaluate_eq_none_iff_admitted hstmt hc
  refine ⟨hstmt, c, hc, fun h => ?_, fun a ha => ?_⟩
  · obtain ⟨d, hd, hadmits⟩ := hnone.mp h _ (List.getLast_mem (List.cons_ne_nil _ _))
    cases hd.symm.trans hdecide
    exact hadmits 1 (.null integer) rfl _ (.null integer rfl rfl)
  · obtain ⟨i, -, -, p, cause, -, -, rfl, hblames⟩ := hsome a ha
    exact ⟨_, p, rfl, hblames⟩

end SqlTyping
