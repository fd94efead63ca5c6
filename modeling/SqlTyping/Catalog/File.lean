import SqlTyping.Catalog
import SqlTyping.SqlType.Reader
import SqlTyping.Yaml.Decoding
import SqlTyping.Yaml.Node.Reader

/-!
# Catalog files

The form in which routines are declared outside a program. A file is a YAML document with a list of
routines; a routine without a result is a procedure, and a parameter or result without a
representation has the natural one.
-/

namespace SqlTyping.CatalogFile

open Yaml

/-- A type and a representation, as they are written. -/
structure TypeClause where
  type : Text.Raw := []
  rep : Text.Raw := []
  deriving DecidableEq

/-- A parameter, as it is written. -/
structure ParamClause where
  name : String := ""
  clause : TypeClause := {}
  deriving DecidableEq

/-- A routine, as it is written. -/
structure RoutineClause where
  name : String := ""
  external : String := ""
  params : List ParamClause := []
  returns : Option TypeClause := none
  deriving DecidableEq

/-! ### Fields -/

/-- The fields of a type. -/
def TypeClause.field? : String → Option (Decoding.Field TypeClause)
  | "type" => some (Decoding.textField fun s c => { c with type := s })
  | "rep" => some (Decoding.textField fun s c => { c with rep := s })
  | _ => none

/-- The fields of a parameter. -/
def ParamClause.field? : String → Option (Decoding.Field ParamClause)
  | "name" => some (Decoding.textField fun s c => { c with name := s.shown })
  | "type" => some (Decoding.textField fun s c => { c with clause.type := s })
  | "rep" => some (Decoding.textField fun s c => { c with clause.rep := s })
  | _ => none

/-- The fields of a routine. -/
def RoutineClause.field? : String → Option (Decoding.Field RoutineClause)
  | "name" => some (Decoding.textField fun s c => { c with name := s.shown })
  | "external" => some (Decoding.textField fun s c => { c with external := s.shown })
  | "params" => some fun scope node c => do
    let item := Decoding.record "routinecat.paramDecl" ParamClause.field? {}
    return { c with params := ← Decoding.list "[]routinecat.paramDecl" item scope node }
  | "returns" => some fun scope node c => do
    let returns ←
      Decoding.optionalRecord "routinecat.typeDecl" TypeClause.field? {} scope node
    return { c with returns }
  | _ => none

/-- The fields of a file. -/
def field? : String → Option (Decoding.Field (List RoutineClause))
  | "routines" => some fun scope node _ =>
    let item := Decoding.record "routinecat.routineDecl" RoutineClause.field? {}
    Decoding.list "[]routinecat.routineDecl" item scope node
  | _ => none

/-- The routines of a file, as they are written. A file without a document has none. -/
def read (text : String) : Except Unreadable (List RoutineClause) := do
  match ← (Document.read text.toList).mapError fun p => .message p.message with
  | none => .ok []
  | some document =>
    let clauses? ←
      document.decode (Decoding.record "routinecat.catalogFile" field? [])
    .ok (clauses?.getD [])

/-! ### Signatures -/

/-- The type and the representation that a clause stands for. -/
def TypeClause.resolve (c : TypeClause) : Except Diagnostic Result := do
  let type ← SqlType.parseRaw c.type
  let kind ← if c.rep.isEmpty then .ok RepKind.natural else RepKind.ofRaw c.rep
  .ok ⟨type, kind⟩

/-- The parameters that clauses stand for, from a position on. -/
def resolveParams (routine : String) (position : Nat) :
    List ParamClause → Except Diagnostic (List Param)
  | [] => .ok []
  | p :: rest => do
    let r ← p.clause.resolve.mapError
      (.inContext ("routine " ++ routine ++ " parameter " ++ toString (position + 1)))
    let params ← resolveParams routine (position + 1) rest
    .ok (⟨p.name, r.type, r.kind⟩ :: params)

/-- The result that a clause stands for, if there is one. -/
def resolveReturns (routine : String) : Option TypeClause → Except Diagnostic (Option Result)
  | none => .ok none
  | some c => do
    let r ← c.resolve.mapError (.inContext ("routine " ++ routine ++ " return type"))
    .ok (some r)

/-- The signature that a routine at a position stands for. -/
def RoutineClause.signature (position : Nat) (c : RoutineClause) : Except Diagnostic Signature := do
  if c.name.isEmpty then
    .error (.plain ("routine " ++ toString (position + 1) ++ " has no name"))
  else
    let params ← resolveParams c.name 0 c.params
    let result ← resolveReturns c.name c.returns
    .ok ⟨c.name, c.external, params, result⟩

/-- The signatures of routines, from a position on. -/
def signaturesFrom (position : Nat) : List RoutineClause → Except Diagnostic (List Signature)
  | [] => .ok []
  | c :: rest => do
    let s ← c.signature position
    .ok (s :: (← signaturesFrom (position + 1) rest))

/-- The error about a file of which no routines can be made out. -/
def unreadable (message : String) : Diagnostic :=
  .inContext "decoding routine catalog" (.text message)

/-- The signatures that a file declares. -/
def parse (text : String) : Except Abort (List Signature) := do
  let clauses ← (read text).mapError (·.abort unreadable)
  (signaturesFrom 0 clauses).mapError .error

end SqlTyping.CatalogFile

/-- Publishes the catalog with the routines that a file declares. -/
def SqlTyping.Catalog.load (c : Catalog) (text : String) : Except Abort Catalog := do
  let signatures ← CatalogFile.parse text
  (c.add (signatures.map Declaration.ofSignature)).mapError fun e => .error e.diagnostic
