import SqlTyping.Routine.Signature

/-!
# Declarations

A routine as it is declared. A declaration becomes a signature if it has a name and all of its
parameters have types.
-/

namespace SqlTyping

/-- A declared parameter, whose type may be missing. -/
structure DeclaredParam where
  name : String
  type : Option SqlType
  kind : RepKind
  deriving DecidableEq

/-- A declared routine. -/
structure Declaration where
  name : String
  external : String
  params : List DeclaredParam
  result : Option Result
  deriving DecidableEq

/-- Why a declaration is refused. -/
inductive DeclarationError where
  | noName
  /-- The parameter at a zero-based position has no type. -/
  | untypedParameter (position : Nat) (routine : String)
  /-- The same parameters are declared already. -/
  | duplicate (signature : Signature)

/-- The diagnostic for a refused declaration. -/
def DeclarationError.diagnostic : DeclarationError → Diagnostic
  | noName => .assertion "routine without a name"
  | untypedParameter position routine =>
    .assertion ("parameter " ++ toString (position + 1) ++ " of routine " ++ routine ++
      " has no type")
  | duplicate signature =>
    .ofCode .duplicateObject ("routine " ++ signature.render ++ " already exists")

namespace Declaration

/-- The declaration of a signature. -/
def ofSignature (s : Signature) : Declaration where
  name := s.name
  external := s.external
  params := s.params.map fun p => ⟨p.name, some p.type, p.kind⟩
  result := s.result

/-- The parameters from a position on, or the position of the first one without a type. -/
def typedParamsFrom (position : Nat) : List DeclaredParam → Except Nat (List Param)
  | [] => .ok []
  | p :: rest =>
    match p.type with
    | none => .error position
    | some t => do
      let ps ← typedParamsFrom (position + 1) rest
      .ok (⟨p.name, t, p.kind⟩ :: ps)

/-- The signature of a declaration all of whose parameters have types. -/
def typed (d : Declaration) : Except Nat Signature :=
  (typedParamsFrom 0 d.params).map fun params => ⟨d.name, d.external, params, d.result⟩

/-- The signature of a declaration. -/
def signature (d : Declaration) : Except DeclarationError Signature :=
  if d.name.isEmpty then .error .noName
  else d.typed.mapError fun position => .untypedParameter position d.name

/-- The signature of a declaration that the caller promises to be typed. -/
def required (d : Declaration) : Except Crash Signature :=
  d.typed.mapError fun _ => .outOfBounds

end Declaration

end SqlTyping
