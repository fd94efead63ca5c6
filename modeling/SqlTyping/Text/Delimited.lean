import SqlTyping.Text.Space
import SqlTyping.Text.Utf8

/-!
# Records of delimited fields

Lines of fields with a delimiter between them. A field that could be misread is written between
quotes, inside which a quote is written twice. The reader takes a comma as the delimiter and reads
one record.
-/

namespace SqlTyping.Text

/-! ### Writing -/

/-- Whether a field has to be quoted: if it could be read as the end of the data, if it starts with
white space, or if it holds a delimiter, a quote or a line end. -/
def needsQuotes (delimiter : Char) (field : List Char) : Bool :=
  field = ['\\', '.'] || field.any (fun c => c = '\n' || c = '\r' || c = '"' || c = delimiter) ||
    (field.head?.map isSpace).getD false

/-- The characters of a field inside quotes. -/
def doubleQuoted (field : List Char) : List Char :=
  field.flatMap fun c => if c = '"' then ['"', '"'] else [c]

/-- A field as it is written. -/
def renderField (delimiter : Char) (field : String) : String :=
  if needsQuotes delimiter field.toList then
    String.ofList ('"' :: doubleQuoted field.toList ++ ['"'])
  else field

/-- A record as it is written, with its line end. -/
def renderRecord (delimiter : Char) (fields : List String) : String :=
  delimiter.toString.intercalate (fields.map (renderField delimiter)) ++ "\n"

/-! ### Reading -/

/-- Why a text is not a record. Lines and columns count from one, columns in bytes. -/
inductive RecordError where
  /-- There is no record. -/
  | empty
  /-- A quote inside a field without quotes. -/
  | bareQuote (start line column : Nat)
  /-- A quote that does not end a field, or a field whose quotes are not closed. -/
  | strayQuote (start line column : Nat)
  deriving DecidableEq

namespace RecordError

/-- The place of an error in a record that starts on the line `start`. -/
def place (start line column : Nat) : String :=
  (if start = line then "" else "record on line " ++ toString start ++ "; ") ++
    "parse error on line " ++ toString line ++ ", column " ++ toString column ++ ": "

/-- The message about a text that is not a record. -/
def message : RecordError → String
  | empty => "EOF"
  | bareQuote start line column => place start line column ++ "bare \" in non-quoted field"
  | strayQuote start line column =>
    place start line column ++ "extraneous or missing \" in quoted-field"

end RecordError

/-- The number of bytes of some characters. -/
def byteLength (cs : List Char) : Nat :=
  (bytesOf cs).length

/-- A text with a line feed for every pair of carriage return and line feed, and without a carriage
return at its end. -/
def normalizeLines : List Char → List Char
  | [] => []
  | ['\r'] => []
  | '\r' :: '\n' :: rest => '\n' :: normalizeLines rest
  | c :: rest => c :: normalizeLines rest

/-- Where a field ends. -/
inductive FieldEnd where
  /-- Another field follows. -/
  | delimiter (rest : List Char) (line column : Nat)
  | record

/-- Reads the rest of a quoted field, given what has been read of it. -/
def readQuoted (start : Nat) (line column : Nat) (acc : List Char) :
    List Char → Except RecordError (List Char × FieldEnd)
  | [] => .error (.strayQuote start line column)
  | '"' :: '"' :: rest => readQuoted start line (column + 2) (acc ++ ['"']) rest
  | '"' :: ',' :: rest => .ok (acc, .delimiter rest line (column + 2))
  | '"' :: '\n' :: _ => .ok (acc, .record)
  | ['"'] => .ok (acc, .record)
  | '"' :: _ => .error (.strayQuote start line column)
  | ['\n'] => .error (.strayQuote start line (column + 1))
  | '\n' :: rest => readQuoted start (line + 1) 1 (acc ++ ['\n']) rest
  | c :: rest => readQuoted start line (column + c.utf8Size) (acc ++ [c]) rest

/-- Reads a field without quotes. -/
def readPlain (start : Nat) (line column : Nat) (cs : List Char) :
    Except RecordError (List Char × FieldEnd) :=
  let field := cs.takeWhile fun c => c ≠ ',' ∧ c ≠ '\n'
  if '"' ∈ field then
    .error (.bareQuote start line (column + byteLength (field.takeWhile (· ≠ '"'))))
  else
    match cs.dropWhile fun c => c ≠ ',' ∧ c ≠ '\n' with
    | ',' :: rest => .ok (field, .delimiter rest line (column + byteLength field + 1))
    | _ => .ok (field, .record)

/-- Reads the fields of a record. -/
def readFields (start : Nat) : Nat → Nat → Nat → List Char → Except RecordError (List String)
  | 0, _, _, _ => .ok []
  | fuel + 1, line, column, cs => do
    let (field, stop) ←
      match cs with
      | '"' :: rest => readQuoted start line (column + 1) [] rest
      | _ => readPlain start line column cs
    match stop with
    | .record => .ok [String.ofList field]
    | .delimiter rest line column =>
      .ok (String.ofList field :: (← readFields start fuel line column rest))

/-- Reads the first record of a text; empty lines in front of it do not count. -/
def readRecord (text : String) : Except RecordError (List String) :=
  let cs := normalizeLines text.toList
  let skipped := (cs.takeWhile (· = '\n')).length
  let rest := cs.drop skipped
  if rest.isEmpty then .error .empty
  else readFields (skipped + 1) (rest.length + 1) (skipped + 1) 1 rest

end SqlTyping.Text
