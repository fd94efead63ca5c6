import SqlTyping.Catalog
import SqlTyping.Routine.Resolution
import SqlTyping.Setting.Engine
import SqlTyping.Statement.Site

/-!
# Compilation

Compiling a statement decides the type of each of its sites: calls are resolved against a catalog
and merges are unified. A site that occurs twice is decided once. The first site that cannot be
decided ends the compilation.
-/

namespace SqlTyping

/-- The decision for a site. -/
inductive Decision where
  /-- The overload that a call binds to. -/
  | call (signature : Signature)
  /-- The type of a merge, the operands that are read from strings when they are evaluated, and
  whether the precision of the type was clamped. -/
  | merge (type : SqlType) (deferred : List Nat) (clamped : Bool)
  deriving DecidableEq

namespace Decision

/-- The type of the expression; a procedure call has none. A result in its natural representation
cannot be NULL. -/
def type? : Decision → Option SqlType
  | call s => s.result.map fun r => r.type.withNullable (decide (r.kind ≠ .natural))
  | merge t _ _ => some t

/-- The overload of a call. -/
def signature? : Decision → Option Signature
  | call s => some s
  | merge .. => none

/-- The operands that are read from strings when they are evaluated. -/
def deferred : Decision → List Nat
  | call _ => []
  | merge _ d _ => d

/-- Whether the precision of the type was clamped. -/
def clamped : Decision → Bool
  | call _ => false
  | merge _ _ c => c

/-- The decision as text. -/
def render (d : Decision) : String :=
  let subject := match d, d.type? with
    | call s, none => "procedure " ++ s.render
    | call s, some t => t.render ++ " via " ++ s.render
    | merge t _ _, _ => t.render
  subject ++ (if d.clamped then " clamped" else "") ++
    if d.deferred.isEmpty then ""
    else " deferred=[" ++ " ".intercalate (d.deferred.map toString) ++ "]"

end Decision

/-- A compiled expression: a site with its decision. -/
structure Expression where
  site : Site
  decision : Decision
  deriving DecidableEq

/-- A compiled statement. -/
structure Compiled where
  name : String
  /-- The version of the catalog that the statement was compiled against. -/
  version : Nat
  expressions : List Expression
  /-- How many sites had been decided before. -/
  memoHits : Nat
  deriving DecidableEq

/-- What a compilation depends on. -/
structure Environment where
  values : Values
  catalog : Catalog

/-! ### Sites -/

/-- The outcome of resolving a call, by rank or by its host signature. -/
def Site.outcome (env : Environment) (name : String) (types : List (Option SqlType))
    (context : ReturnContext) (host : Option HostSignature) : Except Abort CallOutcome :=
  match host with
  | none =>
    resolve (Engine.maxCandidates env.values) name (env.catalog.lookup name types.length) types
      context
  | some h =>
    resolveExplicit (Engine.maxCandidates env.values) name
      (env.catalog.lookup name types.length) h (some types) context

/-- The decision for a call with the given spelling. -/
def CallOutcome.decision (call : String) (o : CallOutcome) : Except Abort Decision :=
  match o with
  | .resolved signature _ => .ok (.call signature)
  | failed =>
    match failed.diagnostic? call with
    | some d => .error (.error d)
    | none => .error (.crash .outOfBounds)

/-- The decision for a merge with the given types of operands. -/
def UnionOutcome.decision (types : List (Option SqlType)) (o : UnionOutcome) :
    Except Abort Decision :=
  match o with
  | .unified t _ clamped => .ok (.merge t (o.deferredPositions types) clamped)
  | .mismatch m => .error (.error m.diagnostic)
  | .untyped => .error (.crash .outOfBounds)

/-- Decides a site on its own. -/
def Site.decide (env : Environment) (s : Site) : Except Abort Decision :=
  let types := s.operandTypes
  match s with
  | .merge _ _ => coalesce (Engine.unionRules env.values) types >>= UnionOutcome.decision types
  | .call name _ context host =>
    outcome env name types context host >>= CallOutcome.decision (renderCall name types)

/-- The notes that resolving a call leaves. -/
def Site.callNotes (env : Environment) (name : String) (types : List (Option SqlType))
    (context : ReturnContext) (host : Option HostSignature) : List Note :=
  match outcome env name types context host, host with
  | .ok o, none => o.notes (renderCall name types) types.length
  | .ok o, some h => o.explicitNotes (renderCall name types) h (some types)
  | .error _, _ => []

/-- The notes that deciding a site leaves. -/
def Site.notes (env : Environment) (s : Site) : List Note :=
  let types := s.operandTypes
  match s with
  | .merge _ _ =>
    let rules := Engine.unionRules env.values
    if types.length < 2 then []
    else match unify rules types with
      | .ok o => o.notes rules types.length
      | .error _ => []
  | .call name _ context host => callNotes env name types context host

/-! ### Statements -/

/-- The tag of a statement. -/
def statementTag (name : String) : List (String × String) := [("stmt", name)]

/-- The tags of the expression at a zero-based position. -/
def expressionTags (name : String) (position : Nat) : List (String × String) :=
  statementTag name ++ [("expr", toString (position + 1))]

/-- The note about an expression that failed, by its text. -/
def failureNote (name : String) (position : Nat) (site : String) (d : Diagnostic) : Note where
  level := 1
  text := site ++ " failed: " ++ d.message
  tags := expressionTags name position

/-- Names the statement and the expression in front of an error. -/
def expressionContext (name : String) (position : Nat) (d : Diagnostic) : Diagnostic :=
  .inContext (name ++ ": expression " ++ toString (position + 1)) d

/-- The same for an abort; a crash has no context. -/
def Abort.atExpression (name : String) (position : Nat) : Abort → Abort
  | .error d => .error (expressionContext name position d)
  | .crash c => .crash c

/-- Decisions made so far, by the spelling of the site. -/
abbrev Memo := List (String × Expression)

/-- Compiles sites from a position on. -/
def compileFrom (env : Environment) (name : String) (position : Nat) (memo : Memo) :
    List Site → Except Abort (List Expression × Nat)
  | [] => .ok ([], 0)
  | s :: rest =>
    match memo.lookup s.render with
    | some e => do
      let (es, hits) ← compileFrom env name (position + 1) memo rest
      .ok (e :: es, hits + 1)
    | none => do
      let d ← (s.decide env).mapError (·.atExpression name position)
      let e : Expression := ⟨s, d⟩
      let (es, hits) ← compileFrom env name (position + 1) ((s.render, e) :: memo) rest
      .ok (e :: es, hits)

/-- Compiles a statement. -/
def Statement.compile (env : Environment) (s : Statement) : Except Abort Compiled :=
  (compileFrom env s.name 0 [] s.sites).map fun r => ⟨s.name, env.catalog.version, r.1, r.2⟩

/-- The notes of compiling sites from a position on, and whether all of them were decided. A site
that was decided before leaves no notes. -/
def siteNotesFrom (env : Environment) (name : String) (position : Nat) (seen : List String) :
    List Site → List Note × Bool
  | [] => ([], true)
  | s :: rest =>
    if s.render ∈ seen then siteNotesFrom env name (position + 1) seen rest
    else
      let notes := (s.notes env).map (·.tagged (expressionTags name position))
      match s.decide env with
      | .error (.error d) => (notes ++ [failureNote name position s.render d], false)
      | .error (.crash _) => (notes, false)
      | .ok _ =>
        let (others, finished) := siteNotesFrom env name (position + 1) (s.render :: seen) rest
        (notes ++ others, finished)

/-- The notes of compiling a statement. -/
def Statement.notes (env : Environment) (s : Statement) : List Note :=
  let (notes, finished) := siteNotesFrom env s.name 0 [] s.sites
  if finished then
    notes ++
      [{ level := 2
         text := "compiled " ++ toString s.sites.length ++
          " expressions against catalog version " ++ toString env.catalog.version
         tags := statementTag s.name }]
  else notes

/-- Compiles several statements. The first failure, in their order, is the failure of the batch. -/
def compileAll (env : Environment) (statements : List Statement) :
    Except Abort (List Compiled) :=
  statements.mapM (·.compile env)

/-- The notes of compiling several statements. -/
def compileAllNotes (env : Environment) : List Statement → List Note
  | [] => []
  | s :: rest =>
    s.notes env ++
      match s.compile env with
      | .ok _ => compileAllNotes env rest
      | .error _ => []

end SqlTyping
