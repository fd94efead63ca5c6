import SqlTyping.SqlType
import SqlTyping.Text.Numeral

/-!
# Type names

Reading of type names such as `DECIMAL(10, 2)`, `VARCHAR(20) FOR BIT DATA` or `CLOB(2M) NOT NULL`.
A name is first cut into tokens (words, parentheses and commas) and the tokens are then read from
left to right. Attributes that a name leaves out take their defaults: one character for CHAR,
DECIMAL(5,0), and the greatest length for large objects.
-/

namespace SqlTyping.TypeName

/-- A token of a type name. Words are in upper case. -/
inductive Token where
  | word (text : List Char)
  | opening
  | closing
  | comma
  deriving DecidableEq

/-- The token as it is shown in messages. -/
def Token.text : Token → List Char
  | word text => text
  | opening => ['(']
  | closing => [')']
  | comma => [',']

/-- Why a text is not a type name. -/
inductive ReadError where
  /-- A character that belongs to no token. -/
  | strangeCharacter (c : Char)
  | unexpectedToken (token : Token)
  | unexpectedEnd
  | noTokens
  | unknownType (name : List Char)
  | decimalRange (precision scale : Int)
  | floatRange (precision : Int)
  /-- A length that does not even fit 32 bits. -/
  | hugeLength (text : List Char)
  | lengthRange (length : Int)
  /-- A precision or scale that does not even fit 32 bits. -/
  | hugeNumber (text : List Char)
  | attributes (cause : AttributeError)

/-! ### Tokens -/

/-- The white space between tokens. -/
def isBlank (c : Char) : Bool :=
  c = ' ' || (9 ≤ c.toNat && c.toNat ≤ 13)

/-- The characters of words. -/
def isWordChar (c : Char) : Bool :=
  c.isAlphanum || c = '_'

/-- The tokens behind a word that has been read, last character first, with the word in front of
them if it is not empty. -/
def flushWord (word : List Char) (ts : List Token) : List Token :=
  if word.isEmpty then ts else .word word.reverse :: ts

/-- The tokens that a character between words stands for; blanks stand for none. -/
def separator? (c : Char) : Option (List Token) :=
  if isBlank c then some []
  else if c = '(' then some [.opening]
  else if c = ')' then some [.closing]
  else if c = ',' then some [.comma]
  else none

/-- The tokens of a text, where `word` holds the characters of a word that is being read, last
character first. -/
def tokensFrom (word : List Char) : List Char → Except ReadError (List Token)
  | [] => .ok (flushWord word [])
  | c :: rest =>
    if isWordChar c then tokensFrom (c.toUpper :: word) rest
    else match separator? c with
      | some seps => (fun ts => flushWord word (seps ++ ts)) <$> tokensFrom [] rest
      | none => .error (.strangeCharacter c)

/-- Whether a character belongs to no token. -/
def isStrange (c : Char) : Bool :=
  !(isWordChar c || (separator? c).isSome)

/-- The tokens of a text. -/
def tokens (cs : List Char) : Except ReadError (List Token) :=
  tokensFrom [] cs

/-! ### Reading tokens -/

/-- A reader takes tokens off the front and returns the remaining ones with its result. -/
abbrev Reader (α : Type) := List Token → Except ReadError (α × List Token)

/-- The error that blames the next token. -/
def blame : List Token → ReadError
  | [] => .unexpectedEnd
  | t :: _ => .unexpectedToken t

/-- The tokens behind the token `t`, which must come next. -/
def expect (t : Token) : List Token → Except ReadError (List Token)
  | [] => .error .unexpectedEnd
  | t' :: rest => if t' = t then .ok rest else .error (.unexpectedToken t')

/-- The tokens behind the word `w`, which must come next. -/
def expectWord (w : String) (ts : List Token) : Except ReadError (List Token) :=
  expect (.word w.toList) ts

/-- The tokens behind the word `w`, if it comes next. -/
def acceptWord? (w : String) : List Token → Option (List Token)
  | [] => none
  | t :: rest => if t = .word w.toList then some rest else none

/-- The text of the next token; nothing at the end. -/
def nextText : List Token → List Char
  | [] => []
  | t :: _ => t.text

/-- A precision or a scale. -/
def readNumber : Reader Int := fun ts =>
  match Text.readInteger 10 32 (nextText ts) with
  | .ok n => .ok (n, ts.tail)
  | .error .outOfRange => .error (.hugeNumber (nextText ts))
  | .error .malformed => .error (blame ts)

/-- The multiplier that a length ends in, and the digits before it. -/
def splitMultiplier (text : List Char) : Int × List Char :=
  if text.length ≤ 1 then (1, text)
  else match text.getLast? with
    | some 'K' => (1024, text.dropLast)
    | some 'M' => (1048576, text.dropLast)
    | some 'G' => (1073741824, text.dropLast)
    | _ => (1, text)

/-- A length in parentheses. Lengths of large objects may end in a multiplier; the length `2G`
stands for the greatest length. -/
def readLength (multipliers : Bool) : Reader Int := fun ts => do
  let ts ← expect .opening ts
  let (multiplier, digits) :=
    if multipliers then splitMultiplier (nextText ts) else (1, nextText ts)
  match Text.readInteger 10 32 digits with
  | .error .outOfRange => .error (.hugeLength (nextText ts))
  | .error .malformed => .error (blame ts)
  | .ok n =>
    let ts ← expect .closing ts.tail
    let product := n * multiplier
    let length := if product = 2147483648 then 2147483647 else product
    if length < 1 ∨ length > 2147483647 then .error (.lengthRange length) else .ok (length, ts)

/-- A length in parentheses, or the default if there is none. -/
def readLengthOr (multipliers : Bool) (default : Nat) : Reader Int := fun ts =>
  if ts.head? = some .opening then readLength multipliers ts else .ok ((default : Int), ts)

/-- `FOR BIT DATA`, which turns the character family `plain` into the binary family `bit`. -/
def readForBitData (plain bit : Family) : Reader Family := fun ts =>
  match acceptWord? "FOR" ts with
  | none => .ok (plain, ts)
  | some ts => do
    let ts ← expectWord "BIT" ts
    let ts ← expectWord "DATA" ts
    .ok (bit, ts)

/-- `SqlType.make` inside a reader. -/
def build (f : Family) (precision scale length : Int) : Except ReadError SqlType :=
  (SqlType.make f precision scale length).mapError .attributes

/-- The precision and scale of a DECIMAL in parentheses. -/
def readDecimalAttributes : Reader (Int × Int) := fun ts =>
  if ts.head? = some .opening then do
    let (precision, ts) ← readNumber ts.tail
    let (scale, ts) ← if ts.head? = some .comma then readNumber ts.tail else .ok (0, ts)
    let ts ← expect .closing ts
    .ok ((precision, scale), ts)
  else .ok ((SqlType.defaultDecimalPrecision, 0), ts)

/-- The rest of a DECIMAL. -/
def readDecimal : Reader SqlType := fun ts => do
  let ((precision, scale), ts) ← readDecimalAttributes ts
  if precision > SqlType.maxDecimalPrecision ∨ scale > precision then
    .error (.decimalRange precision scale)
  else
    let t ← build .decimal precision scale 0
    .ok (t, ts)

/-- The greatest binary precision of FLOAT. -/
def maxFloatPrecision : Int := 52

/-- The greatest binary precision of FLOAT that single precision can hold. -/
def maxRealPrecision : Int := 23

/-- The rest of a FLOAT: single or double precision, whichever holds the precision asked for. -/
def readFloat : Reader SqlType := fun ts =>
  if ts.head? = some .opening then do
    let (precision, ts) ← readNumber ts.tail
    let ts ← expect .closing ts
    if precision < 1 ∨ precision > maxFloatPrecision then .error (.floatRange precision)
    else if precision ≤ maxRealPrecision then .ok (SqlType.fixed .real, ts)
    else .ok (SqlType.fixed .double, ts)
  else .ok (SqlType.fixed .double, ts)

/-- The rest of a VARCHAR, which must have a length. -/
def readVarchar : Reader SqlType := fun ts => do
  let (length, ts) ← readLength false ts
  let (f, ts) ← readForBitData .varchar .varcharForBit ts
  let t ← build f 0 0 length
  .ok (t, ts)

/-- The rest of a large object. -/
def readLargeObject (f : Family) : Reader SqlType := fun ts => do
  let (length, ts) ← readLengthOr true f.maxLength ts
  let t ← build f 0 0 length
  .ok (t, ts)

/-- The rest of a name that starts with CHAR. -/
def readCharacter : Reader SqlType := fun ts =>
  match acceptWord? "VARYING" ts with
  | some ts => readVarchar ts
  | none =>
    match acceptWord? "LARGE" ts with
    | some ts => do
      let ts ← expectWord "OBJECT" ts
      readLargeObject .clob ts
    | none => do
      let (length, ts) ← readLengthOr false SqlType.defaultCharLength ts
      let (f, ts) ← readForBitData .char .charForBit ts
      let t ← build f 0 0 length
      .ok (t, ts)

/-- The rest of a name that starts with LONG. -/
def readLong : Reader SqlType := fun ts => do
  let ts ← expectWord "VARCHAR" ts
  let (f, ts) ← readForBitData .longVarchar .longVarcharForBit ts
  .ok (SqlType.fixed f, ts)

/-- What the first word of a type name announces. -/
inductive Opening where
  | fixed (f : Family)
  | decimal
  | double
  | float
  | character
  | varchar
  | long
  | largeObject (f : Family)
  | binary

/-- The first words of type names. -/
def openings : List (String × Opening) :=
  [("BOOLEAN", .fixed .boolean), ("SMALLINT", .fixed .smallInt), ("INT", .fixed .integer),
    ("INTEGER", .fixed .integer), ("BIGINT", .fixed .bigInt), ("DECIMAL", .decimal),
    ("DEC", .decimal), ("NUMERIC", .decimal), ("REAL", .fixed .real), ("DOUBLE", .double),
    ("FLOAT", .float), ("CHAR", .character), ("CHARACTER", .character), ("VARCHAR", .varchar),
    ("LONG", .long), ("CLOB", .largeObject .clob), ("BINARY", .binary),
    ("BLOB", .largeObject .blob), ("DATE", .fixed .date), ("TIME", .fixed .time),
    ("TIMESTAMP", .fixed .timestamp)]

/-- The rest of a name with the given first word. -/
def readAfter : Opening → Reader SqlType
  | .fixed f => fun ts => .ok (SqlType.fixed f, ts)
  | .decimal => readDecimal
  | .double => fun ts => .ok (SqlType.fixed .double, (acceptWord? "PRECISION" ts).getD ts)
  | .float => readFloat
  | .character => readCharacter
  | .varchar => readVarchar
  | .long => readLong
  | .largeObject f => readLargeObject f
  | .binary => fun ts => do
    let ts ← expectWord "LARGE" ts
    let ts ← expectWord "OBJECT" ts
    readLargeObject .blob ts

/-- A type name without nullability. -/
def readNullable : Reader SqlType
  | [] => .error .noTokens
  | t :: rest =>
    match openings.find? fun o => t = .word o.1.toList with
    | some (_, o) => readAfter o rest
    | none => .error (.unknownType t.text)

/-- A whole type name. -/
def readTokens (ts : List Token) : Except ReadError SqlType := do
  let (t, ts) ← readNullable ts
  match acceptWord? "NOT" ts with
  | none => if ts.isEmpty then .ok t else .error (blame ts)
  | some ts =>
    let ts ← expectWord "NULL" ts
    if ts.isEmpty then .ok (t.withNullable false) else .error (blame ts)

/-- The type that a text names. -/
def read (cs : List Char) : Except ReadError SqlType := do
  readTokens (← tokens cs)

/-- The diagnostic for a text that contains something outside all tokens, both in quotes. -/
def strangePart (part source : String) : Diagnostic :=
  .ofCode .syntaxError ("syntax error at or near " ++ part ++ " in type name " ++ source)

/-- The diagnostic for a text, given in quotes, that names no type. -/
def ReadError.diagnostic (quoted : String) (e : ReadError) : Diagnostic :=
  let number (n : Int) : String := toString n
  match e with
  | strangeCharacter c => strangePart (Text.quoteFirstByte c) quoted
  | unexpectedToken t =>
    .ofCode .syntaxError
      ("syntax error at or near " ++ Text.quote (String.ofList t.text) ++ " in type name " ++
        quoted)
  | unexpectedEnd =>
    .ofCode .syntaxError ("syntax error: unexpected end of type name " ++ quoted)
  | noTokens => .ofCode .syntaxError "syntax error: empty type name"
  | unknownType name =>
    .ofCode .undefinedType ("type " ++ Text.quote (String.ofList name) ++ " does not exist")
  | decimalRange p s =>
    .ofCode .invalidPrecision
      ("invalid DECIMAL precision or scale (" ++ number p ++ "," ++ number s ++
        "); precision must be in [1, 31] and scale in [0, precision]")
  | floatRange p =>
    .ofCode .invalidPrecision
      ("FLOAT precision " ++ number p ++ " is out of range [1, " ++ number maxFloatPrecision ++
        "]")
  | hugeLength text =>
    .ofCode .invalidLength ("the length " ++ String.ofList text ++ " is out of range")
  | lengthRange n =>
    .ofCode .invalidLength ("the length " ++ number n ++ " is out of range [1, 2147483647]")
  | hugeNumber text =>
    .ofCode .invalidPrecision ("the value " ++ String.ofList text ++ " is out of range")
  | attributes cause => cause.diagnostic

end SqlTyping.TypeName

namespace SqlTyping.SqlType

/-- The type that a text names. -/
def parse (source : String) : Except Diagnostic SqlType :=
  (TypeName.read source.toList).mapError (·.diagnostic (Text.quote source))

/-- The type that a text names. A stray byte belongs to no token, unless it is the code of a blank
outside ASCII: next line or no-break space. -/
def parseRaw (source : Text.Raw) : Except Diagnostic SqlType :=
  let pieces : Text.Raw := source.map fun
    | .stray b => if b = 0x85 ∨ b = 0xA0 then .char ' ' else .stray b
    | .char c => .char c
  match pieces.string? with
  | some s => (TypeName.read s.toList).mapError (·.diagnostic (Text.quotePieces source))
  | none =>
    let isStrange : Text.Piece → Bool
      | .char c => TypeName.isStrange c
      | .stray _ => true
    let part := match pieces.find? isStrange with
      | some (.char c) => Text.quoteFirstByte c
      | some (.stray b) => Text.quoteBytes [b]
      | none => ""
    .error (TypeName.strangePart part (Text.quotePieces source))

/-- `parse` for a text that the caller promises to name a type. -/
def parseRequired (source : String) : Except Crash SqlType :=
  (parse source).mapError fun d => .failed (.unexpected ("parsing " ++ Text.quote source) d)

end SqlTyping.SqlType
