import SqlTyping.Text.Case
import SqlTyping.Text.Space

/-!
# Type families

The eighteen families of SQL types, and what every member of a family has in common: its names, the
conversion group it belongs to and its rank there, its nominal precision and scale, its length
ceiling, and the number under which clients know it.
-/

namespace SqlTyping

/-- The groups of families. Implicit conversion stays within a group, apart from the step from
exact to approximate numbers and the reading of strings as datetime values. -/
inductive Group where
  | boolean
  | exactNumeric
  | approximateNumeric
  | character
  | binary
  | datetime
  deriving DecidableEq

namespace Group

/-- The name of a group. -/
def name : Group → String
  | boolean => "boolean"
  | exactNumeric => "exact numeric"
  | approximateNumeric => "approximate numeric"
  | character => "character"
  | binary => "binary"
  | datetime => "datetime"

/-- The group with a number: 1 for boolean up to 6 for datetime. -/
def ofNumber? : Int → Option Group
  | 1 => some boolean
  | 2 => some exactNumeric
  | 3 => some approximateNumeric
  | 4 => some character
  | 5 => some binary
  | 6 => some datetime
  | _ => none

/-- The name that goes with a group number; numbers without a group share one name. -/
def nameOfNumber (n : Int) : String :=
  match ofNumber? n with
  | some g => g.name
  | none => "invalid"

end Group

/-- The type families, in declaration order. -/
inductive Family where
  | boolean
  | smallInt
  | integer
  | bigInt
  | decimal
  | real
  | double
  | char
  | varchar
  | longVarchar
  | clob
  | charForBit
  | varcharForBit
  | longVarcharForBit
  | blob
  | date
  | time
  | timestamp
  deriving DecidableEq

namespace Family

/-- Every family, in declaration order. -/
def all : List Family :=
  [boolean, smallInt, integer, bigInt, decimal, real, double, char, varchar, longVarchar, clob,
    charForBit, varcharForBit, longVarcharForBit, blob, date, time, timestamp]

/-- The number of a family, counted from one. -/
def number : Family → Nat
  | boolean => 1
  | smallInt => 2
  | integer => 3
  | bigInt => 4
  | decimal => 5
  | real => 6
  | double => 7
  | char => 8
  | varchar => 9
  | longVarchar => 10
  | clob => 11
  | charForBit => 12
  | varcharForBit => 13
  | longVarcharForBit => 14
  | blob => 15
  | date => 16
  | time => 17
  | timestamp => 18

/-- The identifier of a family in catalogs and on the command line. -/
def name : Family → String
  | boolean => "BOOLEAN"
  | smallInt => "SMALLINT"
  | integer => "INTEGER"
  | bigInt => "BIGINT"
  | decimal => "DECIMAL"
  | real => "REAL"
  | double => "DOUBLE"
  | char => "CHAR"
  | varchar => "VARCHAR"
  | longVarchar => "LONG_VARCHAR"
  | clob => "CLOB"
  | charForBit => "CHAR_FOR_BIT"
  | varcharForBit => "VARCHAR_FOR_BIT"
  | longVarcharForBit => "LONG_VARCHAR_FOR_BIT"
  | blob => "BLOB"
  | date => "DATE"
  | time => "TIME"
  | timestamp => "TIMESTAMP"

/-- The spelling of a family in SQL text and in messages. -/
def sqlName : Family → String
  | longVarchar => "LONG VARCHAR"
  | charForBit => "CHAR FOR BIT DATA"
  | varcharForBit => "VARCHAR FOR BIT DATA"
  | longVarcharForBit => "LONG VARCHAR FOR BIT DATA"
  | f => f.name

/-- The conversion group of a family. -/
def group : Family → Group
  | boolean => .boolean
  | smallInt | integer | bigInt | decimal => .exactNumeric
  | real | double => .approximateNumeric
  | char | varchar | longVarchar | clob => .character
  | charForBit | varcharForBit | longVarcharForBit | blob => .binary
  | date | time | timestamp => .datetime

/-- The position of a family within its group; a higher rank absorbs a lower one. -/
def rank : Family → Nat
  | boolean | smallInt | real | char | charForBit | date | time | timestamp => 0
  | integer | double | varchar | varcharForBit => 1
  | bigInt | longVarchar | longVarcharForBit => 2
  | decimal | clob | blob => 3

/-- The precision that every type of the family carries; zero where types declare their own and
where they have a length instead. -/
def nominalPrecision : Family → Nat
  | boolean => 1
  | smallInt => 5
  | integer => 10
  | bigInt => 19
  | real => 7
  | double => 15
  | date => 10
  | time => 8
  | timestamp => 29
  | _ => 0

/-- The scale that every type of the family carries. -/
def nominalScale : Family → Nat
  | timestamp => 9
  | _ => 0

/-- The length ceiling of a family, or zero if its types have no length. -/
def maxLength : Family → Nat
  | char | charForBit => 254
  | varchar | varcharForBit => 32672
  | longVarchar | longVarcharForBit => 32700
  | clob | blob => 2147483647
  | _ => 0

/-- The object identifier under which clients know the values of a family. -/
def oid : Family → Nat
  | boolean => 16
  | smallInt => 21
  | integer => 23
  | bigInt => 20
  | decimal => 1700
  | real => 700
  | double => 701
  | char => 1042
  | varchar => 1043
  | longVarchar | clob => 25
  | charForBit | varcharForBit | longVarcharForBit | blob => 17
  | date => 1082
  | time => 1083
  | timestamp => 1114

/-- Whether the family is an exact or approximate numeric one. -/
def isNumeric (f : Family) : Bool :=
  f.group = .exactNumeric || f.group = .approximateNumeric

/-- Whether the family belongs to the character group. -/
def isCharacter (f : Family) : Bool :=
  f.group = .character

/-- Whether the family belongs to the binary group. -/
def isBinary (f : Family) : Bool :=
  f.group = .binary

/-- Whether the family is DATE, TIME or TIMESTAMP. -/
def isDatetime (f : Family) : Bool :=
  f.group = .datetime

/-- Whether the family holds large objects. -/
def isLargeObject (f : Family) : Bool :=
  f = .clob || f = .blob

/-- Whether types of the family have a maximum length. -/
def hasLength (f : Family) : Bool :=
  0 < f.maxLength

/-- Whether types of the family declare their own precision and scale. -/
def hasPrecision (f : Family) : Bool :=
  f = .decimal

/-- The family one step up the chain of lengths, where a type goes whose length exceeds the ceiling
of its family. -/
def next? : Family → Option Family
  | char => some varchar
  | varchar => some longVarchar
  | longVarchar => some clob
  | charForBit => some varcharForBit
  | varcharForBit => some longVarcharForBit
  | _ => none

/-! ### Looking a family up by name -/

/-- The spelling under which family names are compared: upper case, single spaces in place of white
space and underscores, and without a final `DATA`. -/
def normalName (name : String) : List Char :=
  let upper := (Text.trimList name.toList).map Text.upperChar
  let spaced := upper.map fun c => if c = '_' then ' ' else c
  let joined := [' '].intercalate (Text.wordList spaced)
  if " DATA".toList.isSuffixOf joined then joined.take (joined.length - 5) else joined

/-- The family whose identifier or SQL spelling a text is, up to case, white space and
underscores. -/
def ofName? (name : String) : Option Family :=
  let wanted := normalName name
  all.find? fun f => normalName f.name == wanted || normalName f.sqlName == wanted

end Family

/-- A family by its number, as it is stored. Numbers outside 1 to 18 stand for no family. -/
structure FamilyNumber where
  value : Int
  deriving DecidableEq

namespace FamilyNumber

/-- The number of a family. -/
def ofFamily (f : Family) : FamilyNumber := ⟨f.number⟩

/-- The family with this number. -/
def family? (n : FamilyNumber) : Option Family :=
  Family.all.find? fun f => (f.number : Int) == n.value

/-- The identifier of the family with this number. -/
def name (n : FamilyNumber) : String :=
  (n.family?.map Family.name).getD "UNKNOWN"

/-- The SQL spelling of the family with this number. -/
def sqlName (n : FamilyNumber) : String :=
  (n.family?.map Family.sqlName).getD "UNKNOWN"

end FamilyNumber

end SqlTyping
