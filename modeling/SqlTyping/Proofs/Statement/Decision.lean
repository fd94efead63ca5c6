import SqlTyping.Proofs.Routine.Applicable
import SqlTyping.Proofs.Setting.Reachable
import SqlTyping.Proofs.Statement.Site
import SqlTyping.Proofs.Unification.Outcome
import SqlTyping.Statement.Compilation

/-!
# Decisions

A site is decided by unification or by resolution. Under values that an engine can have, deciding a
well-formed site gives a decision or an error, unless it is a call for which a parameter with an
unassigned representation is reached (`exists_decide_eq_crash_iff`). Against a catalog whose
representations are assigned there is none (`decide_ne_crash`). Decisions depend on the catalog only
through the overloads of a name, and not on the order of these (`decide_congr`).
-/

namespace SqlTyping

/-! ## Calls -/

namespace CallOutcome

variable {o o' : CallOutcome}

lemma Alike.decision (h : o.Alike o') (call : String) : o.decision call = o'.decision call := by
  cases h with
  | refl => rfl
  | ambiguous r p hperm hspelling =>
    simp only [CallOutcome.decision,
      (Alike.ambiguous r p hperm hspelling).diagnostic? call]

/-- Every outcome but a resolved call has a diagnostic. -/
lemma decision_ne_crash (o : CallOutcome) (call : String) (c : Crash) :
    o.decision call ≠ .error (.crash c) := by
  cases o <;> exact nofun

end CallOutcome

section SameCall

variable {x x' : Except Abort CallOutcome}

/-- Calls that are the same, and do not crash, have the same decision. -/
lemma SameCall.decision (h : SameCall x x') (hcrash : ∀ c, x ≠ .error (.crash c))
    (call : String) :
    x >>= CallOutcome.decision call = x' >>= CallOutcome.decision call := by
  cases h with
  | error d => rfl
  | ok h => exact h.decision call
  | crash c c' => exact absurd rfl (hcrash c)

/-- The decision of a call crashes if resolving it does. -/
lemma exists_decision_eq_crash_iff (call : String) :
    (∃ c, x >>= CallOutcome.decision call = .error (.crash c)) ↔ ∃ c, x = .error (.crash c) := by
  cases x with
  | error a =>
    constructor
    · rintro ⟨c, hc⟩
      cases hc
      exact ⟨c, rfl⟩
    · rintro ⟨c, hc⟩
      cases hc
      exact ⟨c, rfl⟩
  | ok o =>
    constructor
    · rintro ⟨c, hc⟩
      exact absurd hc (o.decision_ne_crash call c)
    · rintro ⟨c, hc⟩
      cases hc

end SameCall

lemma Catalog.mem_signatures_of_mem_lookup {c : Catalog} {name : String} {arity : Nat}
    {s : Signature} (h : s ∈ c.lookup name arity) : s ∈ c.signatures := by
  obtain ⟨e, he, rfl⟩ := List.mem_map.mp h
  have he := (List.dropWhile_suffix _).subset ((List.takeWhile_prefix _).subset he)
  exact List.mem_map.mpr ⟨e, he, rfl⟩

namespace Site

lemma decide_call (env : Environment) (name : String) (ops : List Operand)
    (context : ReturnContext) (host : Option HostSignature) :
    (call name ops context host).decide env =
      outcome env name (ops.map Operand.type?) context host >>=
        CallOutcome.decision (renderCall name (ops.map Operand.type?)) := rfl

lemma decide_merge (env : Environment) (keyword : MergeKeyword) (ops : List Operand) :
    (merge keyword ops).decide env =
      coalesce (Engine.unionRules env.values) (ops.map Operand.type?) >>=
        UnionOutcome.decision (ops.map Operand.type?) := rfl

/-- Resolving a call only depends on which overloads the name has. -/
lemma outcome_sameCall {env env' : Environment} (hvalues : env.values = env'.values)
    (hlookup : ∀ name arity,
      (env.catalog.lookup name arity).Perm (env'.catalog.lookup name arity)) (name : String)
    (types : List (Option SqlType)) (context : ReturnContext) (host : Option HostSignature) :
    SameCall (outcome env name types context host) (outcome env' name types context host) := by
  unfold outcome
  rw [hvalues]
  cases host with
  | none => exact resolve_sameCall (hlookup name types.length) _ _ _ _
  | some h => exact resolveExplicit_sameCall (hlookup name types.length) _ _ _ _ _

/-- Whether deciding a site reaches a parameter whose representation is not assigned. For a call
without a host signature this is a parameter of a candidate that applies; with one, it is a
parameter that is compared with its host type. -/
def Crashes (env : Environment) : Site → Prop
  | merge _ _ => False
  | call name ops context host =>
    let types := ops.map Operand.type?
    let candidates := env.catalog.lookup name types.length
    (candidates.length : Int) ≤ Engine.maxCandidates env.values ∧
      match host with
      | none => ∃ s ∈ candidates, s.Applies name types context ∧ ¬ s.KindsAssigned
      | some h =>
        types.length = h.length ∧
          ∃ s ∈ candidates, Text.equalFold s.name name = true ∧ s.arity = h.length ∧
            HostStuck s.params h types

lemma exists_outcome_eq_crash_iff {env : Environment} {name : String} {ops : List Operand}
    {context : ReturnContext} {host : Option HostSignature} :
    (∃ c, outcome env name (ops.map Operand.type?) context host = .error (.crash c)) ↔
      (call name ops context host).Crashes env := by
  unfold outcome Crashes
  cases host with
  | none => exact exists_resolve_eq_crash_iff
  | some h =>
    rw [exists_resolveExplicit_eq_crash_iff]
    simp [miscounts]

/-- No call crashes against a catalog whose representations are assigned. -/
lemma not_crashes {env : Environment} (hkinds : ∀ s ∈ env.catalog.signatures, s.KindsAssigned)
    (s : Site) : ¬ s.Crashes env := by
  cases s with
  | merge keyword ops => exact not_false
  | call name ops context host =>
    have hassigned : ∀ s ∈ env.catalog.lookup name (ops.map Operand.type?).length,
        s.KindsAssigned := fun s hs => hkinds s (Catalog.mem_signatures_of_mem_lookup hs)
    cases host with
    | none =>
      rintro ⟨-, s, hs, -, hnot⟩
      exact hnot (hassigned s hs)
    | some h =>
      rintro ⟨-, -, s, hs, -, -, i, p, hp, hnot, -⟩
      exact hnot (hassigned s hs p (List.mem_of_getElem? hp))

/-! ## Sites -/

/-- Decisions depend on the values and on which overloads each name has. -/
lemma decide_congr {env env' : Environment} (hvalues : env.values = env'.values)
    (hlookup : ∀ name arity,
      (env.catalog.lookup name arity).Perm (env'.catalog.lookup name arity))
    (hkinds : ∀ s ∈ env.catalog.signatures, s.KindsAssigned) (s : Site) :
    s.decide env = s.decide env' := by
  cases s with
  | merge keyword ops => rw [decide_merge, decide_merge, hvalues]
  | call name ops context host =>
    have hcrash : ∀ c, outcome env name (ops.map Operand.type?) context host ≠
        .error (.crash c) := fun c hc =>
      not_crashes hkinds _ (exists_outcome_eq_crash_iff.mp ⟨c, hc⟩)
    rw [decide_call, decide_call]
    exact (outcome_sameCall hvalues hlookup name _ context host).decision hcrash _

lemma WellFormed.operands {s : Site} (hs : s.WellFormed) : ∀ o ∈ s.operands, o.WellFormed := by
  cases s with
  | merge keyword ops => exact hs
  | call name ops context host => exact hs.2.1

lemma WellFormed.operandTypes {s : Site} (hs : s.WellFormed) :
    ∀ t, some t ∈ s.operandTypes → t.WellFormed := by
  intro t ht
  obtain ⟨o, ho, htype⟩ := List.mem_map.mp ht
  exact hs.operands o ho t htype

/-- When deciding a well-formed site crashes. -/
lemma exists_decide_eq_crash_iff {env : Environment} (hvalues : Engine.Reachable env.values)
    {s : Site} (hs : s.WellFormed) :
    (∃ c, s.decide env = .error (.crash c)) ↔ s.Crashes env := by
  cases s with
  | merge keyword ops =>
    refine ⟨?_, False.elim⟩
    rintro ⟨c, hc⟩
    obtain ⟨h1, h31⟩ := Engine.maxPrecision_of_reachable hvalues
    have htypes : ∀ t, some t ∈ ops.map Operand.type? → t.WellFormed := hs.operandTypes
    rw [decide_merge] at hc
    rcases coalesce_ne_crash h1 h31 htypes with ⟨d, hd⟩ | ⟨o, ho⟩
    · rw [hd] at hc
      cases hc
    · rw [ho, Except.ok_bind] at hc
      cases o with
      | untyped => exact absurd rfl (coalesce_eq_ok_iff.mp ho).2.2
      | unified t deferred clamped => cases hc
      | mismatch m => cases hc
  | call name ops context host =>
    rw [decide_call, exists_decision_eq_crash_iff, exists_outcome_eq_crash_iff]

/-- Deciding a well-formed site gives a decision or an error. -/
lemma decide_ne_crash {env : Environment} (hvalues : Engine.Reachable env.values)
    (hkinds : ∀ s ∈ env.catalog.signatures, s.KindsAssigned) {s : Site} (hs : s.WellFormed)
    (c : Crash) : s.decide env ≠ .error (.crash c) := fun hc =>
  not_crashes hkinds s ((exists_decide_eq_crash_iff hvalues hs).mp ⟨c, hc⟩)

end Site

end SqlTyping
