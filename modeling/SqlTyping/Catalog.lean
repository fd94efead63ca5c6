import SqlTyping.Journal
import SqlTyping.Routine.Declaration

/-!
# The routine catalog

The routines known to an engine. A catalog is an index: its entries are ordered by the upper case
of the name, then by the number of parameters, then by declaration. Every published change raises
the version. A catalog is a value, so a statement compiled against one never sees a later
declaration.
-/

namespace SqlTyping

/-- An entry of the index. -/
structure CatalogEntry where
  /-- The name in upper case. -/
  key : String
  arity : Nat
  /-- How many signatures were declared before. -/
  sequence : Nat
  signature : Signature
  deriving DecidableEq

/-- The order of the index. -/
def CatalogEntry.before (a b : CatalogEntry) : Bool :=
  if a.key ≠ b.key then a.key < b.key
  else if a.arity ≠ b.arity then a.arity < b.arity
  else a.sequence < b.sequence

/-- The routines known to an engine. -/
structure Catalog where
  entries : List CatalogEntry := []
  version : Nat := 0
  nextSequence : Nat := 0
  deriving DecidableEq

namespace Catalog

/-- The name under which a routine is filed. -/
def foldName (name : String) : String :=
  Text.upper name

/-- The entry of a signature with its position among all declarations. -/
def entryOf (s : Signature) (sequence : Nat) : CatalogEntry :=
  ⟨foldName s.name, s.arity, sequence, s⟩

/-- The number of signatures. -/
def size (c : Catalog) : Nat :=
  c.entries.length

/-- Files an entry in an ordered index. -/
def insertEntry (e : CatalogEntry) : List CatalogEntry → List CatalogEntry
  | [] => [e]
  | f :: rest => if f.before e then f :: insertEntry e rest else e :: f :: rest

/-- The overloads of a name with the given number of parameters, in the order of their
declaration. -/
def lookup (c : Catalog) (name : String) (arity : Nat) : List Signature :=
  let start : CatalogEntry := ⟨foldName name, arity, 0, ⟨"", "", [], none⟩⟩
  ((c.entries.dropWhile (·.before start)).takeWhile fun e =>
    e.key == start.key && e.arity == arity).map (·.signature)

/-- All overloads of a name, by their number of parameters and then by declaration. -/
def overloads (c : Catalog) (name : String) : List Signature :=
  let start : CatalogEntry := ⟨foldName name, 0, 0, ⟨"", "", [], none⟩⟩
  ((c.entries.dropWhile (·.before start)).takeWhile fun e => e.key == start.key).map (·.signature)

/-- The names under which routines are filed, in ascending order. -/
def names (c : Catalog) : List String :=
  (c.entries.map (·.key)).eraseReps

/-- All signatures in the order of the index. -/
def signatures (c : Catalog) : List Signature :=
  c.entries.map (·.signature)

/-- Visits the signatures in the order of the index up to the first failure. The result holds the
signatures visited. -/
def visit {ε : Type} (f : Nat → Signature → Option ε) (count : Nat) :
    List Signature → List Signature × Option ε
  | [] => ([], none)
  | s :: rest =>
    match f count s with
    | some e => ([s], some e)
    | none =>
      let (visited, failure) := visit f (count + 1) rest
      (s :: visited, failure)

/-! ### Changes -/

/-- Whether two signatures declare the same parameters, nullability apart. -/
def sameParams (a b : Signature) : Bool :=
  (a.params.zip b.params).all fun (p, q) => p.agrees q

/-- The catalog with one more signature. The version stays. -/
def declare (c : Catalog) (d : Declaration) : Except DeclarationError Catalog := do
  let s ← d.signature
  if (c.lookup s.name s.arity).any (sameParams · s) then .error (.duplicate s)
  else .ok ⟨insertEntry (entryOf s c.nextSequence) c.entries, c.version, c.nextSequence + 1⟩

/-- The catalog with several more signatures. -/
def declareAll (c : Catalog) : List Declaration → Except DeclarationError Catalog
  | [] => .ok c
  | d :: rest => do declareAll (← c.declare d) rest

/-- Publishes the catalog with further routines: all of them, or none if one is refused. -/
def add (c : Catalog) (ds : List Declaration) : Except DeclarationError Catalog :=
  declareAll { c with version := c.version + 1 } ds

/-- Publishes a catalog with the given routines in place of all others. -/
def replace (c : Catalog) (ds : List Declaration) : Except DeclarationError Catalog :=
  declareAll { version := c.version + 1 } ds

/-- The note about a published catalog. -/
def note (c : Catalog) : Note where
  level := 1
  text := "published routine catalog version " ++ toString c.version ++ " with " ++
    toString c.size ++ " signatures"

end Catalog

end SqlTyping
