import SqlTyping.Text.Numeral
import SqlTyping.Text.Utf8
import SqlTyping.Value.Binary64
import SqlTyping.Yaml.Cursor
import SqlTyping.Yaml.Timestamp

/-!
# Scalars and their tags

What the text of a scalar stands for. A plain scalar without a tag may be null, a truth value, a
number or a timestamp, and is a text otherwise. A tag demands one of these; a tag of any other kind
leaves the text as it is.
-/

namespace SqlTyping.Yaml

/-- What a node is said to be. -/
inductive Tag where
  | null
  | bool
  | int
  | float
  | timestamp
  | str
  | binary
  | merge
  | seq
  | map
  | other (name : String)
  deriving DecidableEq

/-- The value of a scalar. -/
inductive Scalar where
  | null
  | bool (b : Bool)
  | int (n : Int)
  | float (x : Binary64)
  | time (t : Timestamp)
  | text (s : Text.Raw)
  deriving DecidableEq

/-! ### Tags -/

namespace Tag

/-- The tags with a short name. -/
def named : List (String × Tag) :=
  [("!!null", null), ("!!bool", bool), ("!!int", int), ("!!float", float),
   ("!!timestamp", timestamp), ("!!str", str), ("!!binary", binary), ("!!merge", merge),
   ("!!seq", seq), ("!!map", map)]

/-- The namespace of the tags with a short name. -/
def standardNamespace : String := "tag:yaml.org,2002:"

/-- The tag with the given full or short name. -/
def ofName (name : String) : Tag :=
  let short := if standardNamespace.toList.isPrefixOf name.toList
    then "!!" ++ String.ofList (name.toList.drop standardNamespace.length) else name
  (named.lookup short).getD (other short)

/-- The short name of a tag. -/
def name : Tag → String
  | null => "!!null"
  | bool => "!!bool"
  | int => "!!int"
  | float => "!!float"
  | timestamp => "!!timestamp"
  | str => "!!str"
  | binary => "!!binary"
  | merge => "!!merge"
  | seq => "!!seq"
  | map => "!!map"
  | other name => name

end Tag

namespace Scalar

/-- The tag of a value. -/
def tag : Scalar → Tag
  | null => .null
  | bool _ => .bool
  | int _ => .int
  | float _ => .float
  | time _ => .timestamp
  | text _ => .str

/-! ### Numbers -/

/-- Reads a signed number of 64 bits whose base is marked. -/
def readSigned? (cs : List Char) : Option Int :=
  let (negative, unsigned) := Text.splitSign cs
  let (base, digits) := Text.splitBase unsigned
  ((Text.readNatural base 64 digits).bind (Text.withSign 64 negative)).toOption

/-- Reads an unsigned number of 64 bits whose base is marked. -/
def readUnsigned? (cs : List Char) : Option Int :=
  let (base, digits) := Text.splitBase cs
  ((Text.readNatural base 64 digits).map Int.ofNat).toOption

/-- Reads a number of 64 bits in the given base, signed if there is a sign. -/
def readInBase? (base : Nat) (cs : List Char) : Option Int :=
  match Text.readInteger base 64 cs, Text.readNatural base 64 cs with
  | .ok n, _ => some n
  | .error _, .ok n => some n
  | .error _, .error _ => none

/-- Reads a number with a sign behind the mark of its base, which is in lower case. -/
def readLateSign? (cs : List Char) : Option Int :=
  match cs with
  | '0' :: 'b' :: rest => readInBase? 2 rest
  | '0' :: 'o' :: rest => readInBase? 8 rest
  | '-' :: '0' :: 'b' :: rest => (Text.readInteger 2 64 ('-' :: rest)).toOption
  | '-' :: '0' :: 'o' :: rest => (Text.readInteger 8 64 ('-' :: rest)).toOption
  | _ => none

/-- Reads the exponent of a decimal. -/
def readExponent? : List Char → Option Int
  | [] => some 0
  | c :: rest =>
    let (negative, digits) := Text.splitSign rest
    if (c = 'e' ∨ c = 'E') ∧ !digits.isEmpty ∧ digits.all Datetime.isDigit then
      let n : Int := Datetime.digitsValue digits
      some (if negative then -n else n)
    else none

/-- Reads a decimal with optional sign, fraction and exponent. It has digits on at least one side
of the point, which must be the right one if there is a point in front. -/
def readDecimal? (cs : List Char) : Option Binary64 := do
  let (negative, rest) := Text.splitSign cs
  let whole := rest.takeWhile Datetime.isDigit
  let rest := rest.dropWhile Datetime.isDigit
  let (fraction, rest) := match rest with
    | '.' :: rest => (rest.takeWhile Datetime.isDigit, rest.dropWhile Datetime.isDigit)
    | _ => ([], rest)
  let exponent ← readExponent? rest
  let digits := whole ++ fraction
  if digits.isEmpty then none
  else Binary64.ofDecimal? negative (Datetime.digitsValue digits) (exponent - fraction.length)

/-- Whether every underscore stands between two digits. -/
def dividesDigits : Option Char → List Char → Bool
  | _, [] => true
  | before, c :: rest =>
    (c ≠ '_' || (before.any Datetime.isDigit && rest.head?.any Datetime.isDigit)) &&
      dividesDigits (some c) rest

/-- Reads a decimal whose digits may be divided by underscores. -/
def readDividedDecimal? (cs : List Char) : Option Binary64 :=
  if dividesDigits none cs then readDecimal? (cs.filter (· ≠ '_')) else none

/-! ### Resolution -/

/-- The scalars that are known by their text. -/
def constants : List (String × Scalar) :=
  [("", null), ("~", null), ("null", null), ("Null", null), ("NULL", null),
   ("true", bool true), ("True", bool true), ("TRUE", bool true),
   ("false", bool false), ("False", bool false), ("FALSE", bool false),
   (".nan", float .nan), (".NaN", float .nan), (".NAN", float .nan),
   (".inf", float (.infinity false)), (".Inf", float (.infinity false)),
   (".INF", float (.infinity false)),
   ("+.inf", float (.infinity false)), ("+.Inf", float (.infinity false)),
   ("+.INF", float (.infinity false)),
   ("-.inf", float (.infinity true)), ("-.Inf", float (.infinity true)),
   ("-.INF", float (.infinity true))]

/-- The number or timestamp that a text starting with a digit or a sign stands for. Underscores
between the digits of a number do not count. -/
def readNumber? (timestamps : Bool) (cs : List Char) : Option Scalar :=
  match if timestamps then Timestamp.read? cs else none with
  | some t => some (time t)
  | none =>
    let plain := cs.filter (· ≠ '_')
    match (readSigned? plain).or (readUnsigned? plain) with
    | some n => some (int n)
    | none =>
      match readDecimal? plain with
      | some x => some (float x)
      | none => (readLateSign? plain).map int

/-- What a text without quotes stands for. -/
def ofPlain (timestamps : Bool) (s : String) : Scalar :=
  let asText := text (.ofString s)
  match constants.lookup s with
  | some v => v
  | none =>
    match s.toList with
    | c :: _ =>
      if c = '.' then ((readDividedDecimal? s.toList).map float).getD asText
      else if Datetime.isDigit c ∨ c = '+' ∨ c = '-' then
        (readNumber? timestamps s.toList).getD asText
      else asText
    | [] => asText

/-- The problem with a text that is not what its tag demands. -/
def mismatch (demanded found : Tag) (s : String) : Problem where
  text := "cannot decode " ++ found.name ++ " \x60" ++ s ++ "\x60 as a " ++ demanded.name

/-- A whole number as a floating-point number, if it is a signed number of 64 bits. -/
def floatOfInt? (n : Int) : Option Binary64 :=
  if n < 0x8000000000000000 then Binary64.ofDecimal? (n < 0) n.natAbs 0 else none

/-! ### Bytes in base 64 -/

/-- The value of a digit in base 64. -/
def sextet? (c : Char) : Option Nat :=
  if 'A' ≤ c ∧ c ≤ 'Z' then some (c.toNat - 'A'.toNat)
  else if 'a' ≤ c ∧ c ≤ 'z' then some (c.toNat - 'a'.toNat + 26)
  else if '0' ≤ c ∧ c ≤ '9' then some (c.toNat - '0'.toNat + 52)
  else if c = '+' then some 62
  else if c = '/' then some 63
  else none

/-- The bytes of groups of four digits, of which the last one may be filled up with `=`. -/
def bytesOfBase64? : List Char → Option (List UInt8)
  | [] => some []
  | a :: b :: c :: d :: rest => do
    let a ← sextet? a
    let b ← sextet? b
    let first := UInt8.ofNat (a * 4 + b / 16)
    if c = '=' then if d = '=' ∧ rest.isEmpty then some [first] else none
    else
      let c ← sextet? c
      let second := UInt8.ofNat (b % 16 * 16 + c / 4)
      if d = '=' then if rest.isEmpty then some [first, second] else none
      else
        let d ← sextet? d
        let bytes ← bytesOfBase64? rest
        some (first :: second :: UInt8.ofNat (c % 4 * 64 + d) :: bytes)
  | _ => none

/-- The value of a scalar with the given tag. -/
def ofTagged (tag : Tag) (s : String) : Except Problem Scalar :=
  match tag with
  | .str => .ok (text (.ofString s))
  | .null | .bool | .int | .float | .timestamp =>
    let v := ofPlain (tag = .timestamp) s
    if v.tag = tag then .ok v
    else
      match tag, v with
      | .float, int n =>
        match floatOfInt? n with
        | some x => .ok (float x)
        | none => .error (mismatch tag v.tag s)
      | _, _ => .error (mismatch tag v.tag s)
  | .binary =>
    match bytesOfBase64? (s.toList.filter fun c => c ≠ '\n' ∧ c ≠ '\r') with
    | some bytes => .ok (text (Text.decode bytes))
    | none => .error { text := "!!binary value contains invalid base64 data" }
  | .merge | .seq | .map | .other _ => .ok (text (.ofString s))

/-! ### Text -/

/-- The text of a value. -/
def render : Scalar → Text.Raw
  | null => .ofString "<nil>"
  | bool b => .ofString (if b then "true" else "false")
  | int n => .ofString (toString n)
  | float x => .ofString x.render
  | time t => .ofString t.render
  | text s => s

/-- A scalar with its type. Numbers beyond the signed range are in hexadecimal. -/
def literal : Scalar → String
  | null => "interface \x7b\x7d(nil)"
  | bool b => if b then "true" else "false"
  | int n => if n < 0x8000000000000000 then toString n else "0x" ++ Text.hex 0 n.toNat
  | float x => x.render
  | time t => t.literal
  | text s => Text.quotePieces s

/-! ### Keys -/

/-- Whether two scalars are one key. What is no number differs from every key, itself included. -/
def same : Scalar → Scalar → Bool
  | float x, float y => x.same y
  | time t, time u => t.same u
  | a, b => a = b

/-- The position of a kind of scalar in the order of keys. Numbers beyond the signed range are a
kind of their own. -/
def kindRank : Scalar → Nat
  | null => 0
  | bool _ => 1
  | float _ => 2
  | int n => if n < 0x8000000000000000 then 3 else 5
  | text _ => 4
  | time _ => 6

/-- The order in which the keys of a mapping are listed. -/
def before (a b : Scalar) : Bool :=
  if a.kindRank ≠ b.kindRank then a.kindRank < b.kindRank
  else
    match a, b with
    | bool x, bool y => !x && y
    | int m, int n => m < n
    | text s, text t => s.before t
    | float x, float y => x.before y
    | time t, time u => t.before u
    | _, _ => false

end Scalar

end SqlTyping.Yaml
