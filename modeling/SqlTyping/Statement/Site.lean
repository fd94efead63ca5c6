import SqlTyping.Host.Signature
import SqlTyping.Routine.Signature

/-!
# Expression sites

The expressions of a statement whose types are decided when it is compiled: calls of routines, and
merges of values by COALESCE or its synonym VALUE.
-/

namespace SqlTyping

/-- An operand of a site. -/
inductive Operand where
  /-- A parameter without a type, written `?`. -/
  | untyped
  /-- An expression of a type. -/
  | typed (type : SqlType)
  /-- The NULL constant of a type. -/
  | null (type : SqlType)
  /-- A string constant of a type. -/
  | constant (text : String) (type : SqlType)
  deriving DecidableEq

namespace Operand

/-- The type of an operand, if it has one. -/
def type? : Operand → Option SqlType
  | untyped => none
  | typed t | null t | constant _ t => some t

/-- Whether the operand is a NULL constant. -/
def isNull : Operand → Bool
  | null _ => true
  | _ => false

/-- The text of a string constant. -/
def constant? : Operand → Option String
  | constant text _ => some text
  | _ => none

/-- A text in which every single quote is written twice. -/
def doubleQuotes (cs : List Char) : List Char :=
  cs.flatMap fun c => if c = '\'' then ['\'', '\''] else [c]

/-- The spelling of an operand. -/
def render : Operand → String
  | untyped => "?"
  | typed t => t.render
  | null t => "NULL::" ++ t.render
  | constant text t => "'" ++ String.ofList (doubleQuotes text.toList) ++ "'::" ++ t.render

end Operand

/-- The two spellings of a merge. -/
inductive MergeKeyword where
  | coalesce
  | value
  deriving DecidableEq

/-- The keyword as it is written in a site. -/
def MergeKeyword.text : MergeKeyword → String
  | coalesce => "coalesce"
  | value => "value"

/-- An expression site. -/
inductive Site where
  /-- A call of a routine, with what its context needs and, optionally, the host signature that
  selects the overload. -/
  | call (name : String) (operands : List Operand) (context : ReturnContext)
      (host : Option HostSignature)
  /-- A merge of values. -/
  | merge (keyword : MergeKeyword) (operands : List Operand)
  deriving DecidableEq

namespace Site

/-- The operands of a site. -/
def operands : Site → List Operand
  | call _ ops _ _ => ops
  | merge _ ops => ops

/-- The types of the operands. -/
def operandTypes (s : Site) : List (Option SqlType) :=
  s.operands.map Operand.type?

/-- The operands between parentheses. -/
def renderOperands (ops : List Operand) : String :=
  "(" ++ ", ".intercalate (ops.map Operand.render) ++ ")"

/-- What the context of a call needs, as options behind the call. -/
def renderContext (c : ReturnContext) : String :=
  (if c.wantsValue then " expr" else "") ++
    ((c.desired.map fun f => " returns " ++ f.name).getD "") ++
    (if c.nonNull then " nonnull" else "")

/-- The spelling of a site. Sites that differ are spelled differently. -/
def render : Site → String
  | merge keyword ops => keyword.text ++ renderOperands ops
  | call name ops context host =>
    "call " ++ name ++ renderOperands ops ++ renderContext context ++
      ((host.map fun h => " signature " ++ h.render).getD "")

end Site

/-- A named list of sites. -/
structure Statement where
  name : String
  sites : List Site
  deriving DecidableEq

end SqlTyping
