import SqlTyping.Conversion
import SqlTyping.Host.Signature
import SqlTyping.SqlType

/-!
# Routine signatures

One overload of an external routine: its name, the types of its parameters and of its result, and
the representations in which they cross into the host language.
-/

namespace SqlTyping

/-- A parameter. It accepts operands whose family widens to the family of its type. -/
structure Param where
  name : String
  type : SqlType
  kind : RepKind
  deriving DecidableEq

/-- The result of a routine. -/
structure Result where
  type : SqlType
  kind : RepKind
  deriving DecidableEq

/-- An overload of a routine. A routine without a result is a procedure. -/
structure Signature where
  name : String
  /-- The name of the host function that implements the overload. -/
  external : String
  params : List Param
  result : Option Result
  deriving DecidableEq

/-- Whether an operand of family `f` can be bound to the parameter. -/
def Param.accepts (p : Param) (f : Family) : Bool :=
  f.widens p.type.family

/-- Whether an operand can be bound to the parameter; untyped operands always can. -/
def Param.acceptsOperand (p : Param) : Option SqlType → Bool
  | none => true
  | some t => p.accepts t.family

/-- The host type that the parameter is bound as. -/
def Param.hostType? (p : Param) : Option HostType :=
  p.type.family.hostType? p.kind

/-- Whether two parameters agree on kind and type, nullability apart. -/
def Param.agrees (p q : Param) : Bool :=
  p.kind = q.kind && p.type.equivalent q.type

namespace Signature

/-- The number of parameters. -/
def arity (s : Signature) : Nat :=
  s.params.length

/-- The host types that the parameters are bound as, if all of them have one. -/
def hostSignature? (s : Signature) : Option HostSignature :=
  s.params.mapM Param.hostType?

/-- A type and a representation as they are written in a signature. -/
def renderBinding (t : SqlType) (k : RepKind) : String :=
  (t.withNullable true).render ++ " " ++ k.name

/-- The spelling of a signature. -/
def render (s : Signature) : String :=
  let params := ", ".intercalate (s.params.map fun p => renderBinding p.type p.kind)
  let result := match s.result with
    | none => ""
    | some r => " RETURNS " ++ renderBinding r.type r.kind
  Text.mask s.name ++ "(" ++ params ++ ")" ++ result

end Signature

/-- The spelling of an operand type; untyped operands are written `?`. -/
def renderOperandType : Option SqlType → String
  | none => "?"
  | some t => (t.withNullable true).render

/-- The spelling of a call. -/
def renderCall (name : String) (operands : List (Option SqlType)) : String :=
  name ++ "(" ++ ", ".intercalate (operands.map renderOperandType) ++ ")"

/-- What a call needs of the result of the routine. -/
structure ReturnContext where
  /-- The call stands in an expression, which a procedure cannot serve. -/
  wantsValue : Bool := false
  /-- The family that the result must widen to. -/
  desired : Option Family := none
  /-- The result must have a representation that cannot hold NULL. -/
  nonNull : Bool := false
  deriving DecidableEq

/-- Whether a routine with the given result can serve the context. -/
def ReturnContext.admits (c : ReturnContext) : Option Result → Bool
  | none => !c.wantsValue && c.desired.isNone && !c.nonNull
  | some r =>
    (c.desired.map fun f => r.type.family.widens f).getD true &&
      (!c.nonNull || r.kind = .natural)

end SqlTyping
