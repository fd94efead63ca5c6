import SqlTyping.Command.Run
import SqlTyping.Proofs.Diagnostic
import SqlTyping.Proofs.Host.Acceptance
import SqlTyping.Proofs.Statement.Decision
import SqlTyping.Proofs.Statement.TypeText

/-!
# Queries and sites

The commands that answer a single query read operands and options by themselves, from the words of
a command line. The same words can be written as the site of a statement (`callText`, `mergeText`).
It is read as the operands and options of the query (`spellsSite_callText`,
`spellsSite_mergeText`). So the engine is asked the same, and the command and the compilation of the
statement end alike (`queries_end_as_sites`).
-/

namespace SqlTyping

/-! ## Operands -/

/-- The operand of a type; without a type it is a parameter. -/
def Operand.ofType : Option SqlType → Operand
  | none => .untyped
  | some t => .typed t

lemma Operand.type?_ofType (t : Option SqlType) : (ofType t).type? = t := by
  cases t <;> rfl

lemma map_type?_map_ofType (types : List (Option SqlType)) :
    (types.map Operand.ofType).map Operand.type? = types := by
  rw [List.map_map]
  conv_rhs => rw [← List.map_id types]
  exact List.map_congr_left fun t _ => Operand.type?_ofType t

/-- Whether a word, between the commas of a site, is an operand of the type. -/
def Stands (word : String) (type : Option SqlType) : Prop :=
  Closed word.toList ∧ Operand.read (Text.trimList word.toList) = .ok (.ofType type)

lemma stands_untyped : Stands "?" none :=
  ⟨rfl, rfl⟩

lemma stands_of_parse {word : String} {t : SqlType} (h : SqlType.parse word = .ok t) :
    Stands word (some t) := by
  have hread : TypeName.read word.toList = .ok t := Except.mapError_eq_ok_iff.mp h
  exact ⟨TypeName.closed_of_read hread, Operand.read_typed (TypeName.read_trimList hread)⟩

lemma Stands.trimList_ne_nil {word : String} {type : Option SqlType} (h : Stands word type) :
    Text.trimList word.toList ≠ [] := by
  intro hempty
  have hread := h.2
  rw [hempty] at hread
  cases hread

/-- The operands of a query can stand in a site. -/
lemma forall₂_stands {words : List String} {types : List (Option SqlType)} {position : Nat}
    (h : readOperandTypesFrom position words = .ok types) : List.Forall₂ Stands words types := by
  induction words generalizing position types with
  | nil =>
    cases h
    exact .nil
  | cons word words ih =>
    rw [readOperandTypesFrom] at h
    split at h
    next hword =>
      rw [Except.ok_bind] at h
      obtain ⟨others, hothers, h⟩ := Except.bind_eq_ok_iff.mp h
      cases h
      exact .cons (hword ▸ stands_untyped) (ih hothers)
    next =>
      obtain ⟨type, htype, h⟩ := Except.bind_eq_ok_iff.mp h
      obtain ⟨others, hothers, h⟩ := Except.bind_eq_ok_iff.mp h
      cases h
      obtain ⟨t, ht, rfl⟩ := Except.map_eq_ok_iff.mp (Except.mapError_eq_ok_iff.mp htype)
      exact .cons (stands_of_parse ht) (ih hothers)

section

variable {words : List String} {types : List (Option SqlType)}

lemma readOperands_of_stands (h : List.Forall₂ Stands words types) (position : Nat) :
    Site.readOperands position ((words.map String.toList).map Text.trimList) =
      .ok (types.map Operand.ofType) := by
  induction h generalizing position with
  | nil => rfl
  | cons hfirst _ ih =>
    rw [List.map_cons, List.map_cons, Site.readOperands, hfirst.2]
    change (Site.readOperands (position + 1) _ >>= _) = _
    rw [ih]
    rfl

lemma forall_closed_of_stands (h : List.Forall₂ Stands words types) :
    ∀ cs ∈ words.map String.toList, Text.trimList cs ≠ [] ∧ Closed cs := by
  induction h with
  | nil => exact List.forall_mem_nil _
  | cons hfirst _ ih => exact List.forall_mem_cons.mpr ⟨⟨hfirst.trimList_ne_nil, hfirst.1⟩, ih⟩

end

/-! ## Texts of sites -/

/-- The operands of a command between the parentheses of a site. -/
def operandsText (words : List String) : String :=
  "(" ++ ", ".intercalate words ++ ")"

/-- The text of a call up to its options. -/
def callFront (name : String) (words : List String) : String :=
  "call " ++ name ++ operandsText words

/-- The options of a command behind the call of a site. -/
def optionsText (o : Options) : String :=
  Site.renderContext ⟨o.expr, Family.ofName? o.returns, o.nonNull⟩ ++
    if o.signature.isEmpty then "" else " signature " ++ o.signature

/-- The site that calls a routine with the operands and options of a command. -/
def callText (o : Options) (name : String) (words : List String) : String :=
  callFront name words ++ optionsText o

/-- The site that merges the operands of a command. -/
def mergeText (keyword : MergeKeyword) (words : List String) : String :=
  keyword.text ++ operandsText words

lemma toList_operandsText (words : List String) : (operandsText words).toList =
    '(' :: ([',', ' '].intercalate (words.map String.toList) ++ [')']) := by
  simp [operandsText, String.toList_intercalate]

lemma isSpace_of_getLast?_operandsText (cs : List Char) (words : List String) :
    ∀ c ∈ (cs ++ (operandsText words).toList).getLast?, Text.isSpace c = false := by
  rw [toList_operandsText]
  exact Text.isSpace_of_getLast?_parenthesis cs _

/-- A text spells a site, also as the only line of a statement if it is a line. -/
def SpellsSite (text : String) (site : Site) : Prop :=
  Site.parse text = .ok site ∧
    ('\n' ∉ text.toList → ∀ name, Statement.parse name text = .ok ⟨name, [site]⟩)

/-- Lines are trimmed before they are read. -/
lemma spellsSite_of_read {text : String} {site : Site} (hread : Site.read text.toList = .ok site)
    (htrimmed : Site.read (Text.trimList text.toList) = .ok site)
    (hskipped : Statement.isSkipped (Text.trimList text.toList) = false) :
    SpellsSite text site := by
  refine ⟨Site.parse_eq_ok_iff.mpr hread, fun hline name => ?_⟩
  have hlines : Text.splitAtAll (· = '\n') text.toList = [text.toList] := by
    refine Text.splitAtAll_of_forall fun c hc => decide_eq_false ?_
    rintro rfl
    exact hline hc
  have hsite : Site.parse (String.ofList (Text.trimList text.toList)) = .ok site := by
    rw [Site.parse_eq_ok_iff, String.toList_ofList, htrimmed]
  rw [Statement.parse, hlines, Statement.readLines, hskipped, hsite]
  rfl

/-! ## Sites of merges -/

section Reading

variable {words : List String} {types : List (Option SqlType)}

/-- The operands of a query are read from the site that merges them. -/
lemma spellsSite_mergeText (keyword : MergeKeyword) (hwords : readOperandTypes words = .ok types) :
    SpellsSite (mergeText keyword words) (.merge keyword (types.map Operand.ofType)) := by
  have hstands := forall₂_stands hwords
  have htext : (mergeText keyword words).toList = keyword.text.toList ++
      '(' :: ([',', ' '].intercalate (words.map String.toList) ++ [')']) := by
    simp [mergeText, toList_operandsText]
  have hread : Site.read (mergeText keyword words).toList =
      .ok (.merge keyword (types.map Operand.ofType)) := by
    rw [htext]
    exact Site.read_merge keyword (Site.splitOperands?_join (forall_closed_of_stands hstands) [])
      (readOperands_of_stands hstands 0)
  have htrim : Text.trimList (mergeText keyword words).toList =
      (mergeText keyword words).toList := by
    rw [mergeText, String.toList_append]
    refine Text.trimList_eq_self ?_ (isSpace_of_getLast?_operandsText _ words)
    cases keyword <;> (rintro c ⟨⟩; rfl)
  refine spellsSite_of_read hread ?_ ?_
  · rw [htrim, hread]
  · rw [htrim, mergeText, String.toList_append]
    cases keyword <;> rfl

/-! ## Sites of calls -/

lemma toList_callFront (name : String) (words : List String) : (callFront name words).toList =
    "call ".toList ++ name.toList ++ (operandsText words).toList := by
  simp only [callFront, String.toList_append]

/-- A call with the operands of a query is read as its options are. -/
lemma read_callFront_append {name : String} (hname : Site.IsName name)
    (hwords : readOperandTypes words = .ok types) (rest : List Char) :
    Site.read ((callFront name words).toList ++ rest) =
      (Site.readCallOptions rest).map fun r => .call name (types.map Operand.ofType) r.1 r.2 := by
  have hstands := forall₂_stands hwords
  have hoperands : (operandsText words).toList ++ rest =
      '(' :: ([',', ' '].intercalate (words.map String.toList) ++ ')' :: rest) := by
    simp [toList_operandsText]
  rw [toList_callFront, List.append_assoc, hoperands]
  exact Site.read_call hname (Site.splitOperands?_join (forall_closed_of_stands hstands) rest)
    (readOperands_of_stands hstands 0)

/-- A call is spelled with options that do not end in white space, and more white space behind. -/
lemma spellsSite_of_readCallOptions {name text : String} {rest after : List Char}
    {c : ReturnContext} {host : Option HostSignature} (hname : Site.IsName name)
    (hwords : readOperandTypes words = .ok types)
    (htext : text.toList = (callFront name words).toList ++ (rest ++ after))
    (hlast : ∀ c ∈ rest.getLast?, Text.isSpace c = false)
    (hafter : ∀ c ∈ after, Text.isSpace c = true)
    (hrest : Site.readCallOptions rest = .ok (c, host))
    (hall : Site.readCallOptions (rest ++ after) = .ok (c, host)) :
    SpellsSite text (.call name (types.map Operand.ofType) c host) := by
  have hfirst : ∀ c ∈ ((callFront name words).toList ++ rest).head?,
      Text.isSpace c = false := by
    rw [toList_callFront]
    rintro c ⟨⟩
    rfl
  have hend : ∀ c ∈ (callFront name words).toList.getLast?, Text.isSpace c = false := by
    rw [toList_callFront]
    exact isSpace_of_getLast?_operandsText _ words
  have htrim : Text.trimList text.toList = (callFront name words).toList ++ rest := by
    rw [htext, ← List.append_assoc, Text.trimList_append_of_isSpace hafter]
    exact Text.trimList_eq_self hfirst (Text.isSpace_of_getLast?_append hend hlast)
  refine spellsSite_of_read ?_ ?_ ?_
  · rw [htext, read_callFront_append hname hwords, hall]
    rfl
  · rw [htrim, read_callFront_append hname hwords, hrest]
    rfl
  · rw [htrim, toList_callFront]
    rfl

/-- What a command asks of the result is what its options say in a site. -/
lemma implied_of_readContext {o : Options} {c : ReturnContext}
    (h : ResolveQuery.readContext o = .ok c) :
    Site.implied ⟨o.expr, Family.ofName? o.returns, o.nonNull⟩ = c := by
  unfold ResolveQuery.readContext at h
  split at h
  next hreturns =>
    have hnone : Family.ofName? "" = none := by decide +kernel
    cases h
    rw [String.isEmpty_iff.mp hreturns, hnone]
    simp [Site.implied]
  next =>
    split at h
    next f hf =>
      cases h
      rw [hf]
      simp [Site.implied]
    next => cases h

/-- A command has no host signature, or one that can be read. -/
lemma of_readHost {o : Options} {host : Option HostSignature}
    (h : ResolveQuery.readHost o = .ok host) : o.signature.isEmpty = true ∧ host = none ∨
      o.signature.isEmpty = false ∧
        ∃ s, HostSignature.read o.signature.toList = .ok s ∧ host = some s := by
  unfold ResolveQuery.readHost at h
  split at h
  next hempty =>
    cases h
    exact .inl ⟨hempty, rfl⟩
  next hempty =>
    obtain ⟨s, hs, rfl⟩ := Except.map_eq_ok_iff.mp (Except.mapError_eq_ok_iff.mp h)
    exact .inr ⟨by simpa using hempty, s, Except.mapError_eq_ok_iff.mp hs, rfl⟩

lemma isSpace_of_getLast?_renderContext (c : ReturnContext) :
    ∀ d ∈ (Site.renderContext c).toList.getLast?, Text.isSpace d = false := by
  rw [Site.toList_renderContext]
  exact Site.isSpace_of_getLast?_spaced fun w => Site.isOptionWord_of_mem

/-- The white space behind a host signature can be dropped. -/
lemma exists_read_eq_append {source : List Char} {s : HostSignature}
    (h : HostSignature.read source = .ok s) : ∃ front after : List Char, source = front ++ after ∧
      HostSignature.read front = .ok s ∧ (∀ c ∈ after, Text.isSpace c = true) ∧
      front ≠ [] ∧ ∀ c ∈ front.getLast?, Text.isSpace c = false := by
  obtain ⟨before, after, hspace, hsource⟩ := Text.exists_eq_append_trimList source
  obtain ⟨body, hbody⟩ := HostSignature.exists_enclosed_of_read h
  rw [List.forall_mem_append] at hspace
  have hne : before ++ Text.trimList source ≠ [] := by
    rw [hbody]
    simp
  have htrim : Text.trimList (before ++ Text.trimList source) = Text.trimList source := by
    conv_rhs => rw [hsource, Text.trimList_append_of_isSpace hspace.2]
  refine ⟨before ++ Text.trimList source, after, hsource, ?_, hspace.2, hne, ?_⟩
  · rw [← HostSignature.read_trimList, htrim, HostSignature.read_trimList, h]
  · rw [hbody]
    exact Text.isSpace_of_getLast?_parenthesis before body

/-- The operands and options of a query are read from the site that calls the routine. -/
lemma spellsSite_callText {o : Options} {name : String} {c : ReturnContext}
    {host : Option HostSignature} (hname : Site.IsName name)
    (hwords : readOperandTypes words = .ok types) (hcontext : ResolveQuery.readContext o = .ok c)
    (hhost : ResolveQuery.readHost o = .ok host) :
    SpellsSite (callText o name words) (.call name (types.map Operand.ofType) c host) := by
  obtain rfl := implied_of_readContext hcontext
  have hlast := isSpace_of_getLast?_renderContext ⟨o.expr, Family.ofName? o.returns, o.nonNull⟩
  rcases of_readHost hhost with ⟨hempty, rfl⟩ | ⟨hempty, s, hs, rfl⟩
  · have hread := Site.readCallOptions_renderContext
      ⟨o.expr, Family.ofName? o.returns, o.nonNull⟩
    refine spellsSite_of_readCallOptions hname hwords ?_ hlast (List.forall_mem_nil _) hread ?_
    · simp [callText, optionsText, hempty]
    · rw [List.append_nil, hread]
  · obtain ⟨front, after, hsource, hfront, hafter, hne, hend⟩ := exists_read_eq_append hs
    have hread : ∀ {source : List Char}, HostSignature.read source = .ok s → _ := fun h =>
      Site.readCallOptions_renderContext_append
        ⟨o.expr, Family.ofName? o.returns, o.nonNull⟩ h
    refine spellsSite_of_readCallOptions hname hwords ?_ ?_ hafter (hread hfront) ?_
    · simp [callText, optionsText, hempty, hsource]
    · rw [← List.append_assoc, List.getLast?_append_of_ne_nil _ hne]
      exact hend
    · rw [List.append_assoc, List.append_assoc, ← hsource]
      exact hread hs

end Reading

/-! ## Ends of commands and compilations -/

/-- A statement with one site is compiled by deciding the site. -/
lemma compile_singleton (env : Environment) (name : String) (site : Site) :
    (Statement.mk name [site]).compile env =
      ((site.decide env).mapError (·.atExpression name 0)).map fun d =>
        ⟨name, env.catalog.version, [⟨site, d⟩], 0⟩ := by
  simp only [Statement.compile, compileFrom, List.lookup_nil]
  cases site.decide env <;> rfl

/-- Compiling a statement with this site alone gives the decision. -/
def CompilesTo (env : Environment) (stmt : String) (site : Site) (d : Decision) : Prop :=
  ∃ c, (Statement.mk stmt [site]).compile env = .ok c ∧ c.expressions = [⟨site, d⟩]

/-- The command finds a routine for the call and prints it. -/
def FindsRoutine (env : Environment) (o : Options) (name : String) (words : List String)
    (s : Signature) : Prop :=
  ∃ q rank, ResolveQuery.read o name words = .ok q ∧ q.answer env = .ok (s, rank) ∧
    runResolve env o name words = { output := q.render (s, rank), notes := q.notes env }

/-- The command finds a common type of the operands and prints it. -/
def FindsType (env : Environment) (o : Options) (words : List String) (d : Decision) : Prop :=
  ∃ q, UnifyQuery.read o words = .ok q ∧ q.answer env = .ok (some d) ∧
    runUnify env o words = { output := UnifyQuery.render (some d), notes := q.notes env }

section

variable {env : Environment} {site : Site} {d : Decision}

lemma compilesTo_iff {stmt : String} : CompilesTo env stmt site d ↔ site.decide env = .ok d := by
  rw [CompilesTo, compile_singleton]
  cases site.decide env with
  | error a =>
    constructor
    · rintro ⟨c, hc, -⟩
      cases hc
    · intro h
      cases h
  | ok d' =>
    constructor
    · rintro ⟨c, hc, hd⟩
      cases hc
      cases hd
      rfl
    · intro h
      cases h
      exact ⟨_, rfl, rfl⟩

/-- A command and a compilation fail with reports that differ in nothing but the message. -/
def FailAlike (run : Run) (compiled : Except Abort Compiled) : Prop :=
  ∃ d d' : Diagnostic, run.output = "" ∧ run.failure = some (.failed d) ∧
    compiled = .error (.error d') ∧ d'.report = { d.report with message := d'.report.message }

lemma failAlike_of_decide {a : Abort} (hdecide : site.decide env = .error a)
    (hcrash : ∀ c, site.decide env ≠ .error (.crash c)) (notes : List Note) (name : String) :
    FailAlike (.ofResult notes (.error (.aborted a))) ((Statement.mk name [site]).compile env) := by
  cases a with
  | crash c => exact absurd hdecide (hcrash c)
  | error e =>
    refine ⟨e, expressionContext name 0 e, rfl, rfl, ?_, Diagnostic.report_inContext _ e⟩
    rw [compile_singleton, hdecide]
    rfl

end

/-- A call is decided as the query for its routine is answered. -/
lemma decide_call_eq (env : Environment) (q : ResolveQuery) :
    (Site.call q.name (q.operands.map Operand.ofType) q.context q.host).decide env =
      (q.answer env).map fun answer => .call answer.1 := by
  rw [Site.decide_call, map_type?_map_ofType, ResolveQuery.answer, ResolveQuery.outcome]
  cases Site.outcome env q.name q.operands q.context q.host with
  | error a => rfl
  | ok o => cases o <;> rfl

/-- A merge is decided as the query for its type is answered: there always is a type. -/
lemma answer_eq_decide_merge (env : Environment) (keyword : MergeKeyword) {q : UnifyQuery}
    (hq : q.coalesce = true) :
    q.answer env = ((Site.merge keyword (q.operands.map Operand.ofType)).decide env).map some := by
  rw [Site.decide_merge, map_type?_map_ofType, UnifyQuery.answer, UnifyQuery.outcome, if_pos hq]
  cases houtcome : coalesce (Engine.unionRules env.values) q.operands with
  | error a => rfl
  | ok o =>
    cases o with
    | unified t deferred clamped => rfl
    | mismatch m => rfl
    | untyped => exact absurd rfl (coalesce_eq_ok_iff.mp houtcome).2.2

section Queries

variable {env : Environment} {o : Options} {words : List String} {s : Signature} {d : Decision}

lemma runResolve_eq {name : String} {q : ResolveQuery}
    (hq : ResolveQuery.read o name words = .ok q) : runResolve env o name words =
      .ofResult (q.notes env) (((q.answer env).map q.render).mapError .aborted) := by
  rw [runResolve, hq]

lemma runUnify_eq {q : UnifyQuery} (hq : UnifyQuery.read o words = .ok q) :
    runUnify env o words =
      .ofResult (q.notes env) (((q.answer env).map UnifyQuery.render).mapError .aborted) := by
  rw [runUnify, hq]

/-- A command that has read its query prints the answer. -/
lemma findsRoutine_iff {name : String} {q : ResolveQuery}
    (hq : ResolveQuery.read o name words = .ok q) :
    FindsRoutine env o name words s ↔ ∃ rank, q.answer env = .ok (s, rank) := by
  constructor
  · rintro ⟨q', rank, hq', hanswer, -⟩
    cases hq.symm.trans hq'
    exact ⟨rank, hanswer⟩
  · rintro ⟨rank, hanswer⟩
    refine ⟨q, rank, hq, hanswer, ?_⟩
    rw [runResolve_eq hq, hanswer]
    rfl

lemma findsType_iff {q : UnifyQuery} (hq : UnifyQuery.read o words = .ok q) :
    FindsType env o words d ↔ q.answer env = .ok (some d) := by
  constructor
  · rintro ⟨q', hq', hanswer, -⟩
    cases hq.symm.trans hq'
    exact hanswer
  · intro hanswer
    refine ⟨q, hq, hanswer, ?_⟩
    rw [runUnify_eq hq, hanswer]
    rfl

/-- The answer to a query for a routine is the decision for the call, and a failure is a failure to
decide it. -/
lemma resolve_ends_as_call {name : String} {q : ResolveQuery} {site : Site}
    (hq : ResolveQuery.read o name words = .ok q)
    (hsite : site = .call q.name (q.operands.map Operand.ofType) q.context q.host)
    (hcrash : ∀ c, site.decide env ≠ .error (.crash c)) (stmt : String) :
    (∀ s, FindsRoutine env o name words s ↔ CompilesTo env stmt site (.call s)) ∧
      ((∀ s, ¬ FindsRoutine env o name words s) →
        FailAlike (runResolve env o name words) ((Statement.mk stmt [site]).compile env)) := by
  have hdecide : site.decide env = (q.answer env).map fun answer => .call answer.1 :=
    hsite ▸ decide_call_eq env q
  cases hanswer : q.answer env with
  | ok answer =>
    rw [hanswer] at hdecide
    refine ⟨fun s => ?_, fun hfails => ?_⟩
    · rw [findsRoutine_iff hq, compilesTo_iff, hanswer, hdecide]
      simp [Except.map, Prod.ext_iff]
    · exact absurd ((findsRoutine_iff hq).mpr ⟨answer.2, hanswer⟩) (hfails answer.1)
  | error a =>
    rw [hanswer] at hdecide
    refine ⟨fun s => ?_, fun _ => ?_⟩
    · rw [findsRoutine_iff hq, compilesTo_iff, hanswer, hdecide]
      simp [Except.map]
    · rw [runResolve_eq hq, hanswer]
      exact failAlike_of_decide hdecide hcrash _ stmt

/-- The same for the common type of operands and the merge of them. -/
lemma unify_ends_as_merge {keyword : MergeKeyword} {q : UnifyQuery} {site : Site}
    (hq : UnifyQuery.read o words = .ok q) (hcoalesce : q.coalesce = true)
    (hsite : site = .merge keyword (q.operands.map Operand.ofType))
    (hcrash : ∀ c, site.decide env ≠ .error (.crash c)) (stmt : String) :
    (∀ d, FindsType env o words d ↔ CompilesTo env stmt site d) ∧
      ((∀ d, ¬ FindsType env o words d) →
        FailAlike (runUnify env o words) ((Statement.mk stmt [site]).compile env)) := by
  have hanswer : q.answer env = (site.decide env).map some :=
    hsite ▸ answer_eq_decide_merge env keyword hcoalesce
  cases hdecide : site.decide env with
  | ok d =>
    rw [hdecide] at hanswer
    refine ⟨fun d' => ?_, fun hfails => ?_⟩
    · rw [findsType_iff hq, compilesTo_iff, hanswer, hdecide]
      simp [Except.map]
    · exact absurd ((findsType_iff hq).mpr hanswer) (hfails d)
  | error a =>
    rw [hdecide] at hanswer
    refine ⟨fun d' => ?_, fun _ => ?_⟩
    · rw [findsType_iff hq, compilesTo_iff, hanswer, hdecide]
      simp [Except.map]
    · rw [runUnify_eq hq, hanswer]
      exact failAlike_of_decide hdecide hcrash _ stmt

end Queries

/-- A command that answers a query ends as the compilation of the site that its operands and options
can be written as: with the same signature, or the same type, clamping and deferred operands, or
else with a failure that differs in the message only. -/
theorem queries_end_as_sites {env : Environment} (hvalues : Engine.Reachable env.values)
    (hkinds : ∀ s ∈ env.catalog.signatures, s.KindsAssigned) {o : Options} {words : List String}
    {types : List (Option SqlType)} (hwords : readOperandTypes words = .ok types)
    (stmt : String) :
    (∀ name context host, Site.IsName name → ResolveQuery.readContext o = .ok context →
      ResolveQuery.readHost o = .ok host → ∃ site, SpellsSite (callText o name words) site ∧
        (∀ s, FindsRoutine env o name words s ↔ CompilesTo env stmt site (.call s)) ∧
        ((∀ s, ¬ FindsRoutine env o name words s) →
          FailAlike (runResolve env o name words) ((Statement.mk stmt [site]).compile env))) ∧
    (o.coalesce = true → ∀ keyword, ∃ site, SpellsSite (mergeText keyword words) site ∧
      (∀ d, FindsType env o words d ↔ CompilesTo env stmt site d) ∧
      ((∀ d, ¬ FindsType env o words d) →
        FailAlike (runUnify env o words) ((Statement.mk stmt [site]).compile env))) := by
  have hcrash : ∀ {text : String} {site : Site}, SpellsSite text site →
      ∀ c, site.decide env ≠ .error (.crash c) := fun h =>
    Site.decide_ne_crash hvalues hkinds (Site.of_read (Site.parse_eq_ok_iff.mp h.1)).1
  constructor
  · intro name context host hname hcontext hhost
    have hq : ResolveQuery.read o name words = .ok ⟨name, types, context, host⟩ := by
      rw [ResolveQuery.read, hwords, hcontext, hhost]
      rfl
    have hspells := spellsSite_callText hname hwords hcontext hhost
    exact ⟨_, hspells, resolve_ends_as_call hq rfl (hcrash hspells) stmt⟩
  · intro hcoalesce keyword
    have hq : UnifyQuery.read o words = .ok ⟨o.coalesce, types⟩ := by
      rw [UnifyQuery.read, hwords]
      rfl
    have hspells := spellsSite_mergeText keyword hwords
    exact ⟨_, hspells, unify_ends_as_merge hq hcoalesce rfl (hcrash hspells) stmt⟩

/-- A call with a host signature and a family to return, and a merge, of an operand in a spelling of
its own and a parameter. -/
theorem queries_end_as_sites_spelled :
    let f : Signature := ⟨"f", "", [⟨"x", ⟨.decimal, 9, 2, 0, true⟩, .any⟩,
      ⟨"y", ⟨.integer, 10, 0, 0, true⟩, .any⟩], some ⟨⟨.integer, 10, 0, 0, true⟩, .any⟩⟩
    let env : Environment := ⟨Engine.defaults, ⟨[⟨"F", 2, 0, f⟩], 1, 1⟩⟩
    let o : Options := { coalesce := true, returns := "_bigint", signature := " (any,any) " }
    let words := [" dec(5 , 2)Not NULL", "?"]
    (∃ site, SpellsSite (callText o "F" words) site ∧ CompilesTo env "q" site (.call f)) ∧
      ∃ site, SpellsSite (mergeText .value words) site ∧
        CompilesTo env "q" site (.merge ⟨.decimal, 5, 2, 0, true⟩ [] false) := by
  intro f env o words
  have hkinds : ∀ s ∈ env.catalog.signatures, s.KindsAssigned :=
    by decide
  have hwords : readOperandTypes words = .ok [some ⟨.decimal, 5, 2, 0, false⟩, none] :=
    Except.eq_ok_of_toOption (by decide +kernel)
  have hcontext : ResolveQuery.readContext o = .ok ⟨true, some .bigInt, false⟩ :=
    Except.eq_ok_of_toOption (by decide +kernel)
  have hhost : ResolveQuery.readHost o = .ok (some [.any, .any]) :=
    Except.eq_ok_of_toOption (by decide +kernel)
  have hname : Site.IsName "F" := ⟨by decide, by simpa using by decide⟩
  obtain ⟨hcall, hmerge⟩ := queries_end_as_sites (o := o) .defaults hkinds hwords "q"
  obtain ⟨site, hspells, hiff, -⟩ := hcall "F" _ _ hname hcontext hhost
  obtain ⟨merge, hmergeSpells, hmergeIff, -⟩ := hmerge rfl .value
  refine ⟨⟨site, hspells, (hiff f).mp ?_⟩, merge, hmergeSpells, (hmergeIff _).mp ?_⟩
  · have hq : ResolveQuery.read o "F" words =
        .ok ⟨"F", [some ⟨.decimal, 5, 2, 0, false⟩, none], ⟨true, some .bigInt, false⟩,
          some [.any, .any]⟩ := by
      rw [ResolveQuery.read, hwords, hcontext, hhost]
      rfl
    exact (findsRoutine_iff hq).mpr ⟨⟨4, 0⟩, Except.eq_ok_of_toOption (by decide +kernel)⟩
  · have hq : UnifyQuery.read o words = .ok ⟨true, [some ⟨.decimal, 5, 2, 0, false⟩, none]⟩ := by
      rw [UnifyQuery.read, hwords]
      rfl
    exact (findsType_iff hq).mpr (Except.eq_ok_of_toOption (by decide +kernel))

end SqlTyping
