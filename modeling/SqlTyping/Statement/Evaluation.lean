import SqlTyping.Routine.Argument
import SqlTyping.Statement.Compilation
import SqlTyping.Value.Datetime
import SqlTyping.Value.Decimal

/-!
# Evaluation

The checks on constants that compilation leaves to evaluation: a string that is read as a datetime
must represent one, a numeric constant must fit a DECIMAL result, and NULL must not be passed to a
parameter in its natural representation. The first failed check ends the evaluation.
-/

namespace SqlTyping

/-- The first failure of a check over a list, from a position on. -/
def firstFailure {α : Type} (check : Nat → α → Option Diagnostic) (position : Nat) :
    List α → Option Diagnostic
  | [] => none
  | x :: rest => (check position x).or (firstFailure check (position + 1) rest)

/-- What is wrong with an argument of a call. -/
def argumentFailure? (s : Signature) (position : Nat) (o : Operand) : Option Diagnostic :=
  match s.checkArgument position o.isNull with
  | .ok _ => none
  | .error e => some (e.diagnostic s position)

/-- What is wrong with an operand that is read as a datetime. -/
def datetimeFailure? (t : SqlType) (position : Nat) (o : Operand) : Option Diagnostic :=
  match o.constant? with
  | none => none
  | some text =>
    match Datetime.parse t.family text with
    | .ok _ => none
    | .error d => some (.placed position d)

/-- What is wrong with a numeric operand of a DECIMAL merge. -/
def decimalFailure? (t : SqlType) (position : Nat) (o : Operand) : Option Diagnostic :=
  match o with
  | .constant text u =>
    if u.family.isNumeric then
      match DecimalValue.parse t text with
      | .ok _ => none
      | .error d => some (.placed position d)
    else none
  | _ => none

/-- The first failure of a check over the operands at the given positions. -/
def firstFailureAt (check : Nat → Operand → Option Diagnostic) (ops : List Operand) :
    List Nat → Option Abort
  | [] => none
  | position :: rest =>
    match ops[position]? with
    | none => some (.crash .outOfBounds)
    | some o => ((check position o).map .error).or (firstFailureAt check ops rest)

/-- The first failed check of an expression. A decision that is not for a site of its kind has
nothing to check the operands with. -/
def Expression.failure? (e : Expression) : Option Abort :=
  match e.site, e.decision with
  | .call _ ops _ _, .call s => (firstFailure (argumentFailure? s) 0 ops).map .error
  | .merge _ ops, .merge t deferred _ =>
    (firstFailureAt (datetimeFailure? t) ops deferred).or
      (if t.family = .decimal then (firstFailure (decimalFailure? t) 0 ops).map .error else none)
  | _, _ => some (.crash .outOfBounds)

/-- A compiled expression as an evaluation finds it. -/
inductive Evaluand where
  | expression (e : Expression)
  /-- An expression of which nothing but the text is known. -/
  | detached (text : String)

namespace Evaluand

/-- The text of the expression. -/
def text : Evaluand → String
  | expression e => e.site.render
  | detached text => text

/-- Why the expression cannot be evaluated. -/
def failure? : Evaluand → Option Abort
  | expression e => e.failure?
  | detached text => some (.error (.assertion ("result " ++ text ++ " has no site")))

end Evaluand

/-- The position, the text and the failure of the first expression that cannot be evaluated, from a
position on. -/
def firstFailing (position : Nat) : List Evaluand → Option (Nat × String × Abort)
  | [] => none
  | e :: rest =>
    match e.failure? with
    | some a => some (position, e.text, a)
    | none => firstFailing (position + 1) rest

/-- Evaluates expressions in the name of a statement. -/
def evaluate (name : String) (es : List Evaluand) : Option Abort :=
  (firstFailing 0 es).map fun (position, _, a) => a.atExpression name position

/-- The notes of an evaluation. -/
def evaluationNotes (name : String) (es : List Evaluand) : List Note :=
  match firstFailing 0 es with
  | some (position, text, .error d) => [failureNote name position text d]
  | _ => []

/-- The expressions of a compiled statement. -/
def Compiled.evaluands (c : Compiled) : List Evaluand :=
  c.expressions.map .expression

/-- Evaluates a compiled statement. -/
def Compiled.evaluate (c : Compiled) : Option Abort :=
  SqlTyping.evaluate c.name c.evaluands

end SqlTyping
