import SqlTyping.Command.Failure
import SqlTyping.SqlType.Reader
import SqlTyping.Statement.Compilation

/-!
# Queries from the command line

The two commands that put a single question to the engine: which type operands unify into, and which
routine a call binds to. The operands are type names, or `?` for an operand without a type.
-/

namespace SqlTyping

/-! ### Operands -/

/-- Reads operands from a zero-based position on. -/
def readOperandTypesFrom (position : Nat) :
    List String → Except Diagnostic (List (Option SqlType))
  | [] => .ok []
  | word :: rest => do
    let operand ←
      if word = "?" then .ok none
      else (SqlType.parse word).map some |>.mapError fun d =>
        .atPosition position (.inContext ("operand " ++ toString (position + 1)) d)
    .ok (operand :: (← readOperandTypesFrom (position + 1) rest))

/-- Reads operands. -/
def readOperandTypes (words : List String) : Except Diagnostic (List (Option SqlType)) :=
  readOperandTypesFrom 0 words

/-! ### The common type -/

/-- The operands of a unification, with the rules of COALESCE or without them. -/
structure UnifyQuery where
  coalesce : Bool
  operands : List (Option SqlType)

namespace UnifyQuery

/-- Reads a query. -/
def read (o : Options) (words : List String) : Except Diagnostic UnifyQuery :=
  (readOperandTypes words).map fun operands => ⟨o.coalesce, operands⟩

/-- The outcome of the unification. -/
def outcome (env : Environment) (q : UnifyQuery) : Except Abort UnionOutcome :=
  let rules := Engine.unionRules env.values
  if q.coalesce then SqlTyping.coalesce rules q.operands
  else (unify rules q.operands).mapError .crash

/-- The answer to a query; there is none if no operand has a type. -/
def answer (env : Environment) (q : UnifyQuery) : Except Abort (Option Decision) := do
  let o ← q.outcome env
  match o with
  | .unified t _ clamped => .ok (some (.merge t (o.deferredPositions q.operands) clamped))
  | .mismatch m => .error (.error m.diagnostic)
  | .untyped => .ok none

/-- The notes that answering a query leaves. -/
def notes (env : Environment) (q : UnifyQuery) : List Note :=
  let rules := Engine.unionRules env.values
  if q.coalesce ∧ q.operands.length < 2 then []
  else match unify rules q.operands with
    | .ok o => o.notes rules q.operands.length
    | .error _ => []

/-- The answer as text. -/
def render (answer : Option Decision) : String :=
  match answer with
  | none => "?\n"
  | some d => d.render ++ "\n"

end UnifyQuery

/-! ### The routine of a call -/

/-- A call that is to be resolved, by rank or by its host signature. -/
structure ResolveQuery where
  name : String
  operands : List (Option SqlType)
  context : ReturnContext
  host : Option HostSignature

namespace ResolveQuery

/-- Reads what a call needs of the result. A family to return implies that a value is wanted. -/
def readContext (o : Options) : Except CommandFailure ReturnContext :=
  if o.returns.isEmpty then .ok { wantsValue := o.expr, nonNull := o.nonNull }
  else match Family.ofName? o.returns with
    | some f => .ok { wantsValue := true, desired := some f, nonNull := o.nonNull }
    | none =>
      .error (.misused (.ofCode .undefinedType
        ("type " ++ Text.quote o.returns ++ " does not exist")))

/-- Reads the host signature of a call, if it names one. -/
def readHost (o : Options) : Except CommandFailure (Option HostSignature) :=
  if o.signature.isEmpty then .ok none
  else ((HostSignature.parse o.signature).map some).mapError .failed

/-- Reads a query about the routine with the given name. -/
def read (o : Options) (name : String) (words : List String) :
    Except CommandFailure ResolveQuery := do
  let operands ← (readOperandTypes words).mapError .failed
  let context ← readContext o
  let host ← readHost o
  .ok ⟨name, operands, context, host⟩

/-- The spelling of the call. -/
def call (q : ResolveQuery) : String :=
  renderCall q.name q.operands

/-- The outcome of the resolution against a catalog. -/
def outcome (env : Environment) (q : ResolveQuery) : Except Abort CallOutcome :=
  Site.outcome env q.name q.operands q.context q.host

/-- The answer to a query: the signature and how well it fits. -/
def answer (env : Environment) (q : ResolveQuery) : Except Abort (Signature × Rank) := do
  let o ← q.outcome env
  match o with
  | .resolved signature rank => .ok (signature, rank)
  | o =>
    match o.diagnostic? q.call with
    | some d => .error (.error d)
    | none => .error (.crash .outOfBounds)

/-- The notes that answering a query leaves. -/
def notes (env : Environment) (q : ResolveQuery) : List Note :=
  Site.callNotes env q.name q.operands q.context q.host

/-- The answer as text. The rank only tells something if the call was resolved by rank. -/
def render (q : ResolveQuery) (answer : Signature × Rank) : String :=
  let (s, rank) := answer
  s.render ++ "\n" ++
    (if s.external.isEmpty then "" else "external: " ++ s.external ++ "\n") ++
    "host: " ++ ((s.hostSignature?.map HostSignature.render).getD "") ++ "\n" ++
    if q.host.isNone then
      "rank: representation " ++ toString rank.representation ++ ", distance " ++
        toString rank.distance ++ "\n"
    else ""

end ResolveQuery

end SqlTyping
