import SqlTyping.Conversion
import SqlTyping.Journal
import SqlTyping.Unification.Attributes

/-!
# Unification of operand types

The single type that all operands of a construct such as COALESCE convert to. Operands are taken
from left to right, and each one is united with the type of those before it. Untyped operands,
which are written `?`, take the common type and make it nullable.
-/

namespace SqlTyping

/-- What happens when the union of DECIMAL types needs more precision than the maximum. -/
inductive OverflowPolicy where
  /-- The precision is clamped, and values that do not fit fail when they are evaluated. -/
  | defer
  /-- The operands are incompatible. -/
  | reject
  deriving DecidableEq

/-- The settings that govern unification. -/
structure UnionRules where
  maxPrecision : Int
  policy : OverflowPolicy

/-- Why an operand does not unify with those before it. -/
inductive MismatchReason where
  /-- The families have no common family. -/
  | family
  /-- The DECIMAL union exceeds the maximum precision. -/
  | precision
  deriving DecidableEq

/-- The number of a reason; zero is left for no reason. -/
def MismatchReason.number : MismatchReason → Nat
  | family => 1
  | precision => 2

/-- The operand at which unification fails. -/
structure Mismatch where
  reason : MismatchReason
  /-- The zero-based position of the operand. -/
  position : Nat
  /-- The common type of the operands before it. -/
  before : SqlType
  operand : SqlType
  deriving DecidableEq

/-- The result of unification. -/
inductive UnionOutcome where
  | unified (type : SqlType) (deferred clamped : Bool)
  /-- No operand has a type. -/
  | untyped
  | mismatch (cause : Mismatch)
  deriving DecidableEq

namespace UnionOutcome

/-- The common type, if there is one. -/
def type? : UnionOutcome → Option SqlType
  | unified t _ _ => some t
  | _ => none

/-- Whether some operand is read from strings when it is evaluated. -/
def deferred : UnionOutcome → Bool
  | unified _ d _ => d
  | _ => false

/-- Whether a DECIMAL precision was clamped. -/
def clamped : UnionOutcome → Bool
  | unified _ _ c => c
  | _ => false

/-- Why the operands do not unify, if they do not. -/
def mismatch? : UnionOutcome → Option Mismatch
  | mismatch m => some m
  | _ => none

/-- The positions of the operands that are read from strings when they are evaluated. -/
def deferredPositions (o : UnionOutcome) (operands : List (Option SqlType)) : List Nat :=
  if o.deferred then
    (operands.zipIdx.filter fun p => (p.1.map fun t => t.family.isCharacter).getD false).map (·.2)
  else []

end UnionOutcome

/-! ### Diagnostics -/

/-- The spelling of a type that may not be known. -/
def renderKnown (t : Option SqlType) : String :=
  (t.map SqlType.render).getD "<nil>"

/-- The diagnostic for an operand that does not unify with those before it. -/
def MismatchReason.diagnostic (reason : MismatchReason) (position : Nat)
    (operand before : Option SqlType) : Diagnostic :=
  let subject := "operand " ++ toString (position + 1) ++ " of type " ++ renderKnown operand
  let cause : Diagnostic := match reason with
    | .family =>
      .marked .incompatible <| .ofCode .datatypeMismatch
        (subject ++ " is not compatible with type " ++ renderKnown before)
    | .precision =>
      .marked .precisionOverflow <| .marked .incompatible <|
        .hinted "set sql.types.decimal_overflow_policy to defer to clamp the precision" <|
          .ofCode .invalidLength
            (subject ++ " cannot be unified with type " ++ renderKnown before ++
              " without exceeding the maximum DECIMAL precision")
  .placed position cause

/-- The diagnostic for a mismatch. -/
def Mismatch.diagnostic (m : Mismatch) : Diagnostic :=
  m.reason.diagnostic m.position (some m.operand) (some m.before)

/-- The diagnostic that goes with an outcome, if the operands do not unify. -/
def UnionOutcome.diagnostic? (o : UnionOutcome) : Option Diagnostic :=
  o.mismatch?.map Mismatch.diagnostic

/-- The diagnostic that goes with the bare number of a reason, of which no types are known. -/
def diagnosticOfReason (number : Int) : Option Diagnostic :=
  match number with
  | 0 => none
  | 1 => some (MismatchReason.family.diagnostic 0 none none)
  | 2 => some (MismatchReason.precision.diagnostic 0 none none)
  | n => some (.assertion ("unknown reason " ++ toString n))

/-! ### The union of two types -/

/-- The result of uniting the type of some operands with the next operand. -/
inductive PairUnion where
  | joined (type : SqlType) (deferred clamped : Bool)
  | refused (reason : MismatchReason)
  /-- The attributes of the union are out of range. -/
  | broken (cause : AttributeError)
  deriving DecidableEq

/-- The union of two types. -/
def pairUnion (rules : UnionRules) (a b : SqlType) : PairUnion :=
  match Family.meet? a.family b.family with
  | none => .refused .family
  | some m =>
    match unionType rules.maxPrecision m.family a b with
    | .error cause => .broken cause
    | .ok (t, clamped) =>
      if clamped ∧ rules.policy = .reject then .refused .precision
      else .joined t m.deferred clamped

/-! ### The union of a list of operands -/

/-- What is known after some operands. -/
structure UnionProgress where
  /-- The common type of the typed operands. -/
  type : Option SqlType := none
  /-- Whether some operand was untyped. -/
  untyped : Bool := false
  deferred : Bool := false
  clamped : Bool := false

/-- The outcome if no operand follows. -/
def UnionProgress.finish (s : UnionProgress) : UnionOutcome :=
  match s.type with
  | none => .untyped
  | some t => .unified (if s.untyped then t.withNullable true else t) s.deferred s.clamped

/-- Unifies the operands from `position` on with those before them. -/
def unifyFrom (rules : UnionRules) (position : Nat) (s : UnionProgress) :
    List (Option SqlType) → Except Crash UnionOutcome
  | [] => .ok s.finish
  | none :: rest => unifyFrom rules (position + 1) { s with untyped := true } rest
  | some t :: rest =>
    match s.type with
    | none => unifyFrom rules (position + 1) { s with type := some t } rest
    | some before =>
      match pairUnion rules before t with
      | .joined u deferred clamped =>
        unifyFrom rules (position + 1)
          { s with
            type := some u
            deferred := s.deferred || deferred
            clamped := s.clamped || clamped } rest
      | .refused reason => .ok (.mismatch ⟨reason, position, before, t⟩)
      | .broken cause => .error (.failed (unionFailure before t cause))

/-- Unifies a list of operands. -/
def unify (rules : UnionRules) (operands : List (Option SqlType)) : Except Crash UnionOutcome :=
  unifyFrom rules 0 {} operands

/-- Unifies two typed operands. -/
def unifyTyped (rules : UnionRules) (a b : SqlType) : Except Crash UnionOutcome :=
  match pairUnion rules a b with
  | .joined t deferred clamped => .ok (.unified t deferred clamped)
  | .refused reason => .ok (.mismatch ⟨reason, 1, a, b⟩)
  | .broken cause => .error (.failed (unionFailure a b cause))

/-- Unifies two operands, both of which must have a type. -/
def unifyPair (rules : UnionRules) (a b : Option SqlType) : Except Abort UnionOutcome :=
  let untyped (n : Nat) : Except Abort UnionOutcome :=
    .error (.error (.assertion ("operand " ++ toString n ++ " of a pair is untyped")))
  match a, b with
  | none, _ => untyped 1
  | some _, none => untyped 2
  | some a, some b => (unifyTyped rules a b).mapError .crash

/-- Unifies the operands of COALESCE or VALUE, which need at least two operands and one with a
type. -/
def coalesce (rules : UnionRules) (operands : List (Option SqlType)) :
    Except Abort UnionOutcome :=
  if operands.length < 2 then
    .error <| .error <| .marked .tooFewOperands <| .ofCode .wrongArgumentCount
      ("COALESCE requires at least two operands, got " ++ toString operands.length)
  else
    match unify rules operands with
    | .error crash => .error (.crash crash)
    | .ok .untyped =>
      .error <| .error <| .marked .untypedOperands <| .ofCode .untypedParameters
        ("all the operands of COALESCE are untyped parameters; " ++
          "at least one must have a type")
    | .ok o => .ok o

/-! ### Notes -/

/-- The note about a mismatch. -/
def Mismatch.note (rules : UnionRules) (m : Mismatch) : Note :=
  let operand := "operand " ++ toString (m.position + 1) ++ ": "
  let types := m.before.render ++ " and " ++ m.operand.render
  match m.reason with
  | .family => { level := 2, text := operand ++ types ++ " are incompatible" }
  | .precision =>
    { level := 2
      text := operand ++ "DECIMAL union of " ++ types ++ " exceeds precision " ++
        toString rules.maxPrecision }

/-- The notes of the unification of `count` operands. -/
def UnionOutcome.notes (rules : UnionRules) (count : Nat) : UnionOutcome → List Note
  | .unified t _ _ =>
    [{ level := 3, text := "unified " ++ toString count ++ " operands into " ++ t.render }]
  | .untyped => []
  | .mismatch m => [m.note rules]

/-- The notes of the unification of two operands as a pair. -/
def UnionOutcome.pairNotes (rules : UnionRules) : UnionOutcome → List Note
  | .mismatch m => [m.note rules]
  | _ => []

end SqlTyping
