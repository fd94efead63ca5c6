import SqlTyping.Proofs.Diagnostic
import SqlTyping.Proofs.Statement.Memo

/-!
# Failures of a compilation

A site can fail in eight ways (`Failure`): three for calls that do not bind to one overload, four
for merges whose operands have no common type, and one for calls with too many overloads. Each way
has its own code and markers (`Failure.signs`), and the ways exclude each other. A statement fails
as the first of its sites that fails, with the code, markers, details, hints and position of the
site, and with its own name and the number of the site in front of the message
(`compile_failure_shows_signs`). Redaction marks in the name are masked.
-/

namespace SqlTyping

/-! ## Ways to fail -/

/-- The ways in which a site can fail. -/
inductive Failure where
  | unresolvable
  | ambiguous
  | ineligible
  | incompatible
  | overflow
  | tooFewOperands
  | untypedOperands
  | tooManyCandidates
  deriving DecidableEq

namespace Failure

/-- The code and the markers by which a client tells a failure from others. -/
def signs : Failure → String × List Marker
  | unresolvable => ("42X50", [.unresolvable])
  | ambiguous => ("42X73", [.ambiguous])
  | ineligible => ("42Y03", [.ineligibleReturn])
  | incompatible => ("42815", [.incompatible])
  | overflow => ("42611", [.incompatible, .precisionOverflow])
  | tooFewOperands => ("42605", [.tooFewOperands])
  | untypedOperands => ("42610", [.untypedOperands])
  | tooManyCandidates => ("XX000", [])

/-- No two failures have the same code. -/
lemma eq_of_signs_eq {f g : Failure} (h : f.signs.1 = g.signs.1) : f = g := by
  revert h
  cases f <;> cases g <;> first | exact fun _ => rfl | exact fun h => absurd h (by decide)

/-- The failure of a call that does not bind to one overload. -/
def ofOutcome? : CallOutcome → Option Failure
  | .resolved .. => none
  | .ambiguous .. => some ambiguous
  | .unresolvable _ => some unresolvable
  | .ineligible => some ineligible

/-- The failure of operands that do not fit. -/
def ofReason : MismatchReason → Failure
  | .family => incompatible
  | .precision => overflow

end Failure

/-- Whether a diagnostic shows the code and the markers of a failure. -/
def Report.Shows (r : Report) (f : Failure) : Prop :=
  (r.state.text, r.markers) = f.signs

instance (r : Report) (f : Failure) : Decidable (r.Shows f) :=
  inferInstanceAs (Decidable (_ = _))

namespace Site

/-- Why a site fails. Calls fail by the outcome of their resolution, merges by their operands. -/
inductive FailsBy (env : Environment) : Site → Failure → Prop
  | outcome {name : String} {ops : List Operand} {context : ReturnContext}
    {host : Option HostSignature} {o : CallOutcome} {f : Failure}
    (h : outcome env name (ops.map Operand.type?) context host = .ok o)
    (hf : Failure.ofOutcome? o = some f) : FailsBy env (.call name ops context host) f
  | tooManyCandidates {name : String} {ops : List Operand} {context : ReturnContext}
    {host : Option HostSignature}
    (h : Engine.maxCandidates env.values < (env.catalog.lookup name ops.length).length) :
    FailsBy env (.call name ops context host) .tooManyCandidates
  | mismatch {keyword : MergeKeyword} {ops : List Operand} {m : Mismatch} (htwo : 2 ≤ ops.length)
    (h : unify (Engine.unionRules env.values) (ops.map Operand.type?) = .ok (.mismatch m)) :
    FailsBy env (.merge keyword ops) (.ofReason m.reason)
  | tooFewOperands {keyword : MergeKeyword} {ops : List Operand} (h : ops.length < 2) :
    FailsBy env (.merge keyword ops) .tooFewOperands
  | untypedOperands {keyword : MergeKeyword} {ops : List Operand} (htwo : 2 ≤ ops.length)
    (h : ∀ o ∈ ops, o.type? = none) : FailsBy env (.merge keyword ops) .untypedOperands

end Site

/-! ## Calls -/

/-- Within the limit, resolving a call by rank ends with an outcome or a crash. -/
lemma failsOnly_resolveNamed (operands : List (Option SqlType)) (context : ReturnContext)
    (named : List Signature) :
    (resolveNamed operands context named).FailsOnly fun a => ∃ c, a = .crash c := by
  refine .ite (.ok _) ?_
  split
  · exact .ok _
  · exact .of_mapError (fun c => ⟨c, rfl⟩) _

/-- The same by host signature. -/
lemma failsOnly_resolveHosted (host : HostSignature) (operands : Option (List (Option SqlType)))
    (context : ReturnContext) (named : List Signature) :
    (resolveHosted host operands context named).FailsOnly fun a => ∃ c, a = .crash c := by
  refine .ite (.ok _) (.bind (.of_mapError (fun c => ⟨c, rfl⟩) _) fun _ => .ite (.ok _) ?_)
  split
  · exact .ok _
  · split
    · exact .ok _
    · exact .of_mapError (fun c => ⟨c, rfl⟩) _
  · exact .ok _

namespace Site

variable {env : Environment} {name : String} {ops : List Operand} {context : ReturnContext}
  {host : Option HostSignature}

/-- A call is refused before it is resolved if there are too many candidates. -/
lemma outcome_of_lt
    (h : Engine.maxCandidates env.values < (env.catalog.lookup name ops.length).length) :
    outcome env name (ops.map Operand.type?) context host =
      .error (.error (tooManyCandidates (env.catalog.lookup name ops.length).length
        (Engine.maxCandidates env.values))) := by
  unfold outcome
  rw [List.length_map]
  cases host with
  | none => exact if_pos h
  | some host => exact if_pos h

lemma lt_of_outcome_eq_error {d : Diagnostic}
    (h : outcome env name (ops.map Operand.type?) context host = .error (.error d)) :
    Engine.maxCandidates env.values < (env.catalog.lookup name ops.length).length := by
  by_contra hnot
  have hle := Int.not_lt.mp hnot
  unfold outcome at h
  rw [List.length_map] at h
  cases host with
  | none =>
    rw [resolve_of_le hle] at h
    obtain ⟨c, hc⟩ := failsOnly_resolveNamed _ _ _ _ h
    cases hc
  | some host =>
    dsimp only at h
    rw [resolveExplicit_of_le hle] at h
    obtain ⟨c, hc⟩ := failsOnly_resolveHosted _ _ _ _ _ h
    cases hc

end Site

/-! ## Merges -/

lemma unifyFrom_eq_untyped_iff {rules : UnionRules} {position : Nat} {s : UnionProgress}
    {operands : List (Option SqlType)} :
    unifyFrom rules position s operands = .ok .untyped ↔
      s.type = none ∧ ∀ o ∈ operands, o = none := by
  induction operands generalizing position s with
  | nil =>
    rw [unifyFrom, UnionProgress.finish]
    cases s.type <;> simp
  | cons o operands ih =>
    cases o with
    | none => simp [unifyFrom, ih]
    | some t =>
      rw [unifyFrom]
      cases hs : s.type with
      | none => simp [ih]
      | some before =>
        dsimp only
        cases pairUnion rules before t with
        | joined u deferred clamped => simp [ih]
        | refused reason => simp
        | broken cause => simp

/-- Unification finds no type if no operand has one. -/
lemma unify_eq_untyped_iff {rules : UnionRules} {operands : List (Option SqlType)} :
    unify rules operands = .ok .untyped ↔ ∀ o ∈ operands, o = none := by
  rw [unify, unifyFrom_eq_untyped_iff]
  exact and_iff_right rfl

lemma not_length_lt_two {ops : List Operand} (h : 2 ≤ ops.length) :
    ¬ (ops.map Operand.type?).length < 2 := by
  rw [List.length_map]
  exact Nat.not_lt.mpr h

/-! ## Signs -/

namespace Diagnostic

variable {d : Diagnostic} {f : Failure}

lemma shows_of_ownState? {s : SqlState} (hstate : d.ownState? = some s)
    (hinternal : d.isInternal = false) (hsigns : (s.text, d.markers) = f.signs) :
    d.report.Shows f := by
  have hreport : d.report.state = s := state_of_ownState? hstate hinternal
  rw [Report.Shows, hreport]
  exact hsigns

/-- A failure of resolution shows its signs, with a position and without. -/
lemma exists_decision_eq {o : CallOutcome} (h : Failure.ofOutcome? o = some f) (call : String) :
    ∃ d, o.decision call = .error (.error d) ∧ d.report.Shows f := by
  cases o with
  | resolved signature rank => cases h
  | ambiguous candidates rank position =>
    cases h
    cases position with
    | none => exact ⟨_, rfl, shows_of_ownState? rfl rfl rfl⟩
    | some p => exact ⟨_, rfl, shows_of_ownState? rfl rfl rfl⟩
  | unresolvable position =>
    cases h
    cases position with
    | none => exact ⟨_, rfl, shows_of_ownState? rfl rfl rfl⟩
    | some p => exact ⟨_, rfl, shows_of_ownState? rfl rfl rfl⟩
  | ineligible =>
    cases h
    exact ⟨_, rfl, shows_of_ownState? rfl rfl rfl⟩

lemma shows_mismatch (m : Mismatch) : m.diagnostic.report.Shows (.ofReason m.reason) := by
  obtain ⟨reason, position, before, operand⟩ := m
  cases reason with
  | family => exact shows_of_ownState? rfl rfl rfl
  | precision => exact shows_of_ownState? rfl rfl rfl

end Diagnostic

namespace Site

variable {env : Environment} {s : Site} {f g : Failure} {d : Diagnostic}

/-- A site that fails in one of the ways is not decided, and its diagnostic shows the signs. -/
lemma FailsBy.exists_decide_eq (h : s.FailsBy env f) :
    ∃ d, s.decide env = .error (.error d) ∧ d.report.Shows f := by
  cases h with
  | outcome h hf =>
    rw [decide_call, h]
    exact Diagnostic.exists_decision_eq hf _
  | tooManyCandidates h =>
    rw [decide_call, outcome_of_lt h]
    exact ⟨_, rfl, rfl⟩
  | @mismatch keyword ops m htwo h =>
    rw [decide_merge, coalesce, if_neg (not_length_lt_two htwo), h]
    exact ⟨_, rfl, Diagnostic.shows_mismatch m⟩
  | @tooFewOperands keyword ops h =>
    have hlength : (ops.map Operand.type?).length < 2 := by rwa [List.length_map]
    rw [decide_merge, coalesce, if_pos hlength]
    exact ⟨_, rfl, Diagnostic.shows_of_ownState? rfl rfl rfl⟩
  | @untypedOperands keyword ops htwo h =>
    have huntyped : unify (Engine.unionRules env.values) (ops.map Operand.type?) =
        .ok .untyped := by
      refine unify_eq_untyped_iff.mpr fun t ht => ?_
      obtain ⟨o, ho, rfl⟩ := List.mem_map.mp ht
      exact h o ho
    rw [decide_merge, coalesce, if_neg (not_length_lt_two htwo), huntyped]
    exact ⟨_, rfl, Diagnostic.shows_of_ownState? rfl rfl rfl⟩

/-- A site that is not decided fails in one of the ways. -/
lemma exists_failsBy (h : s.decide env = .error (.error d)) : ∃ f, s.FailsBy env f := by
  cases s with
  | call name ops context host =>
    rw [decide_call] at h
    cases houtcome : outcome env name (ops.map Operand.type?) context host with
    | error a =>
      rw [houtcome] at h
      cases h
      exact ⟨_, .tooManyCandidates (lt_of_outcome_eq_error houtcome)⟩
    | ok o =>
      cases o with
      | resolved signature rank =>
        rw [houtcome] at h
        cases h
      | ambiguous candidates rank position => exact ⟨_, .outcome houtcome rfl⟩
      | unresolvable position => exact ⟨_, .outcome houtcome rfl⟩
      | ineligible => exact ⟨_, .outcome houtcome rfl⟩
  | merge keyword ops =>
    rcases Nat.lt_or_ge ops.length 2 with hlt | htwo
    · exact ⟨_, .tooFewOperands hlt⟩
    rw [decide_merge, coalesce, if_neg (not_length_lt_two htwo)] at h
    cases hunify : unify (Engine.unionRules env.values) (ops.map Operand.type?) with
    | error c =>
      rw [hunify] at h
      cases h
    | ok o =>
      cases o with
      | unified t deferred clamped =>
        rw [hunify] at h
        cases h
      | mismatch m => exact ⟨_, .mismatch htwo hunify⟩
      | untyped =>
        refine ⟨_, .untypedOperands htwo fun o ho => ?_⟩
        exact unify_eq_untyped_iff.mp hunify _ (List.mem_map_of_mem ho)

/-- The ways to fail exclude each other. -/
lemma FailsBy.unique (hf : s.FailsBy env f) (hg : s.FailsBy env g) : f = g := by
  obtain ⟨d, hd, hshows⟩ := hf.exists_decide_eq
  obtain ⟨d', hd', hshows'⟩ := hg.exists_decide_eq
  rw [hd] at hd'
  cases hd'
  exact Failure.eq_of_signs_eq (congrArg Prod.fst (hshows.symm.trans hshows'))

end Site

/-! ## Statements -/

/-- The message about an expression: the masked name of the statement, the number of the expression
and the message about the site. -/
def expressionMessage (name : String) (position : Nat) (message : String) : String :=
  Text.mask name ++ ": expression " ++ toString (position + 1) ++ ": " ++ message

lemma message_expressionContext (name : String) (position : Nat) (d : Diagnostic) :
    (expressionContext name position d).message =
      expressionMessage name position d.message := by
  have hcolon : Text.mask ": expression " = ": expression " := by decide
  have hcontext : Text.mask (name ++ ": expression " ++ toString (position + 1)) =
      Text.mask name ++ ": expression " ++ toString (position + 1) := by
    rw [Text.mask_append, Text.mask_append, hcolon, Text.mask_toString]
  have hne : (Text.mask name ++ ": expression " ++ toString (position + 1)).isEmpty = false := by
    simp
  rw [expressionContext, Diagnostic.inContext, Diagnostic.message, hcontext, hne]
  rfl

/-- Only too many candidates are reported as an internal error. -/
lemma Report.Shows.state_eq_internal_iff {r : Report} {f : Failure} (h : r.Shows f) :
    r.state = .internal ↔ f = .tooManyCandidates := by
  have hcode : r.state.text = f.signs.1 := congrArg Prod.fst h
  constructor
  · intro hstate
    rw [hstate] at hcode
    exact Failure.eq_of_signs_eq hcode.symm
  · rintro rfl
    exact congrArg SqlState.mk hcode

lemma Report.Shows.iff_eq {r : Report} {f : Failure} (h : r.Shows f) (g : Failure) :
    r.Shows g ↔ g = f := by
  constructor
  · intro hg
    exact Failure.eq_of_signs_eq (congrArg Prod.fst (hg.symm.trans h))
  · rintro rfl
    exact h

/-- The message about an expression as it is reported: that of an internal error says so, if it
does not already. -/
def Failure.message (f : Failure) (name : String) (position : Nat) (message : String) : String :=
  let line := expressionMessage name position message
  if f = .tooManyCandidates ∧ line.startsWith Report.internalPrefix = false then
    Report.internalPrefix ++ line
  else line

lemma message_report_expressionContext {f : Failure} {own : Diagnostic} (h : own.report.Shows f)
    (name : String) (position : Nat) :
    (expressionContext name position own).report.message =
      f.message name position own.message := by
  have hinternal : (expressionContext name position own).state = .internal ↔
      f = .tooManyCandidates := h.state_eq_internal_iff
  simp only [Diagnostic.report, message_expressionContext, hinternal, Failure.message,
    Bool.not_eq_true']

/-- A statement that does not compile fails as the first of its sites that fails. Its report shows
the signs of exactly one failure, which says why the site fails; it has the code, details, hints,
position and markers of the site; and its message names the statement and the expression in front
of the message of the site. -/
theorem compile_failure_shows_signs {name text : String} {stmt : Statement} {env : Environment}
    (hstmt : Statement.parse name text = .ok stmt)
    (hkinds : ∀ s ∈ env.catalog.signatures, s.KindsAssigned)
    (hvalues : Engine.Reachable env.values) {a : Abort} (hfail : stmt.compile env = .error a) :
    ∃ (i : Nat) (s : Site) (own d : Diagnostic) (f : Failure),
      a = .error d ∧ stmt.sites[i]? = some s ∧
      (∀ t ∈ stmt.sites.take i, ∃ e, t.decide env = .ok e) ∧
      s.decide env = .error (.error own) ∧
      (∀ g, s.FailsBy env g ↔ g = f) ∧ (∀ g, d.report.Shows g ↔ g = f) ∧
      d.report.state = own.report.state ∧ d.report.detail = own.report.detail ∧
      d.report.hint = own.report.hint ∧ d.report.position = own.report.position ∧
      d.report.markers = own.report.markers ∧
      d.report.message = f.message name i own.message := by
  obtain ⟨rfl, -⟩ := Statement.of_parse hstmt
  have hsites := Statement.wellFormed_of_parse hstmt
  rw [Statement.compile_eq hsites] at hfail
  have hdecide : decideFrom env stmt.name 0 stmt.sites = .error a := by
    cases h : decideFrom env stmt.name 0 stmt.sites with
    | ok es =>
      rw [h] at hfail
      cases hfail
    | error a' =>
      rw [h] at hfail
      cases hfail
      rfl
  obtain ⟨i, s, own, hs, hown, hbefore, rfl⟩ :=
    exists_diagnostic_of_decideFrom hvalues hkinds hsites hdecide
  obtain ⟨f, hf⟩ := Site.exists_failsBy hown
  obtain ⟨own', hown', hshows⟩ := hf.exists_decide_eq
  rw [hown] at hown'
  cases hown'
  have hreport := Diagnostic.report_inContext
    (stmt.name ++ ": expression " ++ toString (i + 1)) own
  rw [← expressionContext] at hreport
  have hshows' : (expressionContext stmt.name i own).report.Shows f := by
    rw [Report.Shows] at hshows ⊢
    rw [hreport]
    exact hshows
  have hunique : ∀ g, s.FailsBy env g ↔ g = f := by
    intro g
    refine ⟨fun hg => hg.unique hf, ?_⟩
    rintro rfl
    exact hf
  refine ⟨i, s, own, expressionContext stmt.name i own, f, ?_, hs, hbefore, hown, hunique,
    hshows'.iff_eq, ?_, ?_, ?_, ?_, ?_, ?_⟩
  · rw [Nat.zero_add]
  · rw [hreport]
  · rw [hreport]
  · rw [hreport]
  · rw [hreport]
  · rw [hreport]
  · exact message_report_expressionContext hshows stmt.name i

/-- The second site of a statement has more candidates than the limit allows. -/
theorem compile_failure_shows_signs_too_many :
    let t : SqlType := ⟨.integer, 10, 0, 0, true⟩
    let f : Signature := ⟨"f", "", [⟨"", t, .natural⟩], none⟩
    let g : Signature := ⟨"f", "", [⟨"", ⟨.date, 0, 0, 0, true⟩, .natural⟩], none⟩
    let values := Engine.defaults.put Engine.maxCandidatesKey 1
    let env : Environment := ⟨values, ⟨[⟨"F", 1, 0, f⟩, ⟨"F", 1, 1, g⟩], 2, 1⟩⟩
    let stmt : Statement :=
      ⟨"q", [.merge .coalesce [.typed t, .untyped], .call "f" [.typed t] {} none]⟩
    Statement.parse "q" "coalesce(INTEGER, ?)\ncall f(INTEGER)" = .ok stmt ∧
      (∀ s ∈ env.catalog.signatures, s.KindsAssigned) ∧ Engine.Reachable env.values ∧
      ∃ d, stmt.compile env = .error (.error d) ∧ d.report.message =
        "internal error: q: expression 2: too many overloads (2 > 1)" ∧
        ∃ f, ∀ g, d.report.Shows g ↔ g = f := by
  intro t f g values env stmt
  have hstmt : Statement.parse "q" "coalesce(INTEGER, ?)\ncall f(INTEGER)" = .ok stmt :=
    Except.eq_ok_of_toOption (by decide +kernel)
  have hkinds : ∀ s ∈ env.catalog.signatures, s.KindsAssigned := by decide +kernel
  have hset : Engine.registry.set Engine.defaults Engine.maxCandidatesKey "1" = .ok values :=
    Except.eq_ok_of_toOption (by decide +kernel)
  have hvalues : Engine.Reachable env.values := .set .defaults hset
  have hcompile : stmt.compile env =
      .error (.error (expressionContext "q" 1 (tooManyCandidates 2 1))) := rfl
  have hmessage : (expressionContext "q" 1 (tooManyCandidates 2 1)).report.message =
      "internal error: q: expression 2: too many overloads (2 > 1)" := by decide +kernel
  obtain ⟨-, -, -, d, k, hd, -, -, -, -, hsigns, -⟩ :=
    compile_failure_shows_signs hstmt hkinds hvalues hcompile
  cases hd
  exact ⟨hstmt, hkinds, hvalues, _, hcompile, hmessage, k, hsigns⟩

/-- The name in front of a message need not be the name of the statement. -/
theorem compile_failure_masks_name :
    let stmt : Statement := ⟨"‹", [.merge .coalesce [.untyped]]⟩
    Statement.parse "‹" "coalesce(?)" = .ok stmt ∧
      ∃ d, stmt.compile ⟨Engine.defaults, {}⟩ = .error (.error d) ∧ d.report.message =
        "?: expression 1: COALESCE requires at least two operands, got 1" ∧
        d.report.message ≠
          "‹: expression 1: COALESCE requires at least two operands, got 1" := by
  intro stmt
  have hstmt : Statement.parse "‹" "coalesce(?)" = .ok stmt :=
    Except.eq_ok_of_toOption (by decide +kernel)
  let own : Diagnostic := .marked .tooFewOperands
    (.ofCode .wrongArgumentCount "COALESCE requires at least two operands, got 1")
  have hcompile : stmt.compile ⟨Engine.defaults, {}⟩ =
      .error (.error (expressionContext "‹" 0 own)) := rfl
  have hmessage : (expressionContext "‹" 0 own).report.message =
      "?: expression 1: COALESCE requires at least two operands, got 1" := by decide +kernel
  exact ⟨hstmt, _, hcompile, hmessage, hmessage ▸ by decide⟩

end SqlTyping
