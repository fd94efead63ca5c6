import SqlTyping.Diagnostic
import SqlTyping.Family

/-!
# SQL types

A type is a family with the attributes that its members declare: precision and scale for DECIMAL, a
maximum length for character, binary and large-object families, and for all of them whether values
may be NULL. `SqlType.make` is the only way to build a type from attributes of unknown origin; it
rejects attributes out of range.
-/

namespace SqlTyping

/-- A SQL type. -/
structure SqlType where
  family : Family
  precision : Nat
  scale : Nat
  length : Nat
  nullable : Bool
  deriving DecidableEq

/-- Why attributes do not make a type. -/
inductive AttributeError where
  /-- The family number stands for no family. -/
  | noFamily (number : Int)
  | precision (precision : Int)
  | scale (scale precision : Int)
  | length (length : Int) (family : Family)
  deriving DecidableEq

namespace SqlType

/-- The largest precision of a DECIMAL. -/
def maxDecimalPrecision : Nat := 31

/-- The precision of a DECIMAL that declares none. -/
def defaultDecimalPrecision : Nat := 5

/-- The length of a CHAR that declares none. -/
def defaultCharLength : Nat := 1

/-- The nullable type of a family whose attributes are all fixed. For the long families the length
is the ceiling. -/
def fixed (f : Family) : SqlType :=
  { family := f, precision := f.nominalPrecision, scale := f.nominalScale, length := f.maxLength,
    nullable := true }

/-- The nullable type with the given attributes, if they are in range. Attributes that the family
does not declare are ignored. -/
def make (f : Family) (precision scale length : Int) : Except AttributeError SqlType :=
  if f = .decimal then
    if precision < 1 ∨ precision > maxDecimalPrecision then .error (.precision precision)
    else if scale < 0 ∨ scale > precision then .error (.scale scale precision)
    else .ok
      { family := f, precision := precision.toNat, scale := scale.toNat, length := 0,
        nullable := true }
  else if f.hasLength then
    if f = .longVarchar ∨ f = .longVarcharForBit then .ok (fixed f)
    else if length < 1 ∨ length > f.maxLength then .error (.length length f)
    else .ok
      { family := f, precision := 0, scale := 0, length := length.toNat, nullable := true }
  else .ok (fixed f)

/-- `make` for a family given by its number. -/
def makeNumbered (n : FamilyNumber) (precision scale length : Int) :
    Except AttributeError SqlType :=
  match n.family? with
  | some f => make f precision scale length
  | none => .error (.noFamily n.value)

/-- The type with the given nullability. -/
def withNullable (t : SqlType) (nullable : Bool) : SqlType :=
  { t with nullable }

/-- Whether two types agree on everything but nullability. -/
def equivalent (t u : SqlType) : Bool :=
  t.withNullable true == u.withNullable true

/-- The spelling of a type in SQL, without nullability. -/
def sqlText (t : SqlType) : String :=
  match t.family with
  | .decimal => "DECIMAL(" ++ toString t.precision ++ "," ++ toString t.scale ++ ")"
  | .char | .varchar | .clob | .blob =>
    t.family.sqlName ++ "(" ++ toString t.length ++ ")"
  | .charForBit => "CHAR(" ++ toString t.length ++ ") FOR BIT DATA"
  | .varcharForBit => "VARCHAR(" ++ toString t.length ++ ") FOR BIT DATA"
  | f => f.sqlName

/-- The spelling of a type in SQL. -/
def render (t : SqlType) : String :=
  if t.nullable then t.sqlText else t.sqlText ++ " NOT NULL"

end SqlType

/-- The diagnostic for attributes that do not make a type. -/
def AttributeError.diagnostic : AttributeError → Diagnostic
  | noFamily n => .assertion ("invalid type family " ++ toString n)
  | precision p =>
    .ofCode .invalidPrecision
      ("DECIMAL precision " ++ toString p ++ " is out of range [1, " ++
        toString SqlType.maxDecimalPrecision ++ "]")
  | scale s p =>
    .ofCode .invalidPrecision
      ("DECIMAL scale " ++ toString s ++ " is out of range [0, " ++ toString p ++ "]")
  | length n f =>
    .ofCode .invalidLength
      ("the length " ++ toString n ++ " is not valid for " ++ f.sqlName ++
        "; it must be in [1, " ++ toString f.maxLength ++ "]")

/-- `SqlType.make` for attributes that the caller promises to be in range. -/
def SqlType.required (f : Family) (precision scale length : Int) : Except Crash SqlType :=
  (SqlType.make f precision scale length).mapError fun e =>
    .failed (.unexpected ("invalid " ++ f.sqlName ++ " descriptor") e.diagnostic)

end SqlTyping
