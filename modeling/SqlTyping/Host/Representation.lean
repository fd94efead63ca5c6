import SqlTyping.Diagnostic
import SqlTyping.Family
import SqlTyping.Text.Quoted

/-!
# Host representations

How values of a family reach an external routine. Each family has a natural representation, which
cannot hold NULL, a nullable one that points to it, and the untyped representation `any`.
-/

namespace SqlTyping

/-- The kinds of representation. Kinds are stored as 8-bit numbers, not all of which are
assigned. -/
inductive RepKind where
  | natural
  | nullable
  | any
  | unassigned (number : Int)
  deriving DecidableEq

namespace RepKind

/-- The assigned kinds. -/
def assigned : List RepKind := [natural, nullable, any]

/-- The kind with a number. -/
def ofNumber (n : Int) : RepKind :=
  if n = 0 then natural else if n = 1 then nullable else if n = 2 then any else unassigned n

/-- The number of a kind. -/
def number : RepKind → Int
  | natural => 0
  | nullable => 1
  | any => 2
  | unassigned n => n

/-- The name of a kind. -/
def name : RepKind → String
  | natural => "natural"
  | nullable => "nullable"
  | any => "any"
  | unassigned _ => "unknown"

/-- The diagnostic for a name, given in quotes, that no kind has. -/
def unknown (quoted : String) : Diagnostic :=
  .plain ("unknown representation kind " ++ quoted)

/-- The kind with a name, in any letter case. -/
def ofName (name : String) : Except Diagnostic RepKind :=
  match assigned.find? fun k => Text.equalFold name k.name with
  | some k => .ok k
  | none => .error (unknown (Text.quote name))

/-- The kind with a name, in any letter case. No name has stray bytes. -/
def ofRaw (name : Text.Raw) : Except Diagnostic RepKind :=
  match name.string? with
  | some s => ofName s
  | none => .error (unknown (Text.quotePieces name))

/-- The cost of binding an operand to a representation of this kind; lower is more specific. -/
def rank? : RepKind → Option Nat
  | natural | nullable => some 1
  | any => some 2
  | unassigned _ => none

end RepKind

/-- The host types of natural representations. -/
inductive HostBase where
  | bool
  | int16
  | int32
  | int64
  | decimal
  | float32
  | float64
  | string
  | bytes
  | time
  deriving DecidableEq

namespace HostBase

/-- Every natural host type. -/
def all : List HostBase :=
  [bool, int16, int32, int64, decimal, float32, float64, string, bytes, time]

/-- The spelling of a natural host type. -/
def text : HostBase → String
  | bool => "bool"
  | int16 => "int16"
  | int32 => "int32"
  | int64 => "int64"
  | decimal => "apd.Decimal"
  | float32 => "float32"
  | float64 => "float64"
  | string => "string"
  | bytes => "[]byte"
  | time => "time.Time"

end HostBase

/-- A host type. -/
inductive HostType where
  | any
  | plain (base : HostBase)
  | pointer (base : HostBase)
  deriving DecidableEq

namespace HostType

/-- The spelling of a host type. -/
def text : HostType → String
  | any => "any"
  | plain base => base.text
  | pointer base => "*" ++ base.text

/-- Every host type. -/
def all : List HostType :=
  any :: HostBase.all.map plain ++ HostBase.all.map pointer

/-- The host type with a spelling. -/
def ofText? (spelling : List Char) : Option HostType :=
  all.find? fun t => t.text.toList == spelling

end HostType

/-- The host type of the natural representation of a family. -/
def Family.hostBase : Family → HostBase
  | .boolean => .bool
  | .smallInt => .int16
  | .integer => .int32
  | .bigInt => .int64
  | .decimal => .decimal
  | .real => .float32
  | .double => .float64
  | .char | .varchar | .longVarchar | .clob => .string
  | .charForBit | .varcharForBit | .longVarcharForBit | .blob => .bytes
  | .date | .time | .timestamp => .time

/-- The host type of a family in a representation; unassigned kinds have none. -/
def Family.hostType? (f : Family) : RepKind → Option HostType
  | .natural => some (.plain f.hostBase)
  | .nullable => some (.pointer f.hostBase)
  | .any => some .any
  | .unassigned _ => none

/-- The representations of the family with a number. -/
def FamilyNumber.representations (n : FamilyNumber) : Except Crash (List (RepKind × HostType)) :=
  match n.family? with
  | some f => .ok (RepKind.assigned.filterMap fun k => (f.hostType? k).map fun t => (k, t))
  | none => .error (.failed (.assertion ("invalid family " ++ toString n.value)))

end SqlTyping
