import SqlTyping.Routine.Signature

/-!
# Passing arguments

The check that a routine makes on an argument before it is called: a parameter in its natural
representation has no room for NULL.
-/

namespace SqlTyping

/-- Why an argument cannot be passed. -/
inductive ArgumentError where
  | noParameter
  | nullIntoNatural (p : Param)

/-- Checks the argument at a position. -/
def Signature.checkArgument (s : Signature) (position : Int) (isNull : Bool) :
    Except ArgumentError Unit :=
  if position < 0 then .error .noParameter
  else match s.params[position.toNat]? with
    | none => .error .noParameter
    | some p => if isNull ∧ p.kind = .natural then .error (.nullIntoNatural p) else .ok ()

/-- The diagnostic for an argument that cannot be passed. -/
def ArgumentError.diagnostic (s : Signature) (position : Int) : ArgumentError → Diagnostic
  | noParameter =>
    .assertion (s.render ++ " has no parameter " ++ toString (position + 1))
  | nullIntoNatural p =>
    .atPosition position <| .marked .nullIntoNatural <|
      .hinted "declare the parameter with the nullable representation" <|
        .ofCode .nullIntoNatural
          ("the NULL value cannot be passed to parameter " ++ toString (position + 1) ++ " of " ++
            s.name ++ ", which is bound as " ++ p.type.family.hostBase.text)

end SqlTyping
