import SqlTyping.SqlType.Reader
import SqlTyping.Statement.Site

/-!
# Reading sites and statements

A site is a keyword with operands in parentheses. Operands are separated by the commas that stand
outside quotes and inner parentheses. Behind a call follow its options, the last of which can be a
host signature. A statement has one site per line, with blank lines and comment lines between them.
-/

namespace SqlTyping

/-- Why a text is not an operand. -/
inductive OperandError where
  | empty
  /-- A string constant without a type. -/
  | untypedConstant (text : List Char)
  | type (source : List Char) (cause : TypeName.ReadError)

/-- Why a text is not a site. -/
inductive SiteError where
  | noParenthesis
  | noKeyword
  | unbalanced
  | operand (position : Nat) (cause : OperandError)
  | trailingText
  /-- The host signature is wrong; it is given as it is quoted. -/
  | host (quoted : String) (cause : HostSignatureError)
  | missingFamily (options : List Text.Piece)
  | unknownFamily (word : List Text.Piece)
  | unexpectedOption (options word : List Text.Piece)
  /-- The place of the host signature lies behind the end of the text. -/
  | hostBeyondEnd

namespace Operand

/-- Reads the type of an operand. -/
def readType (cs : List Char) : Except OperandError SqlType :=
  (TypeName.read cs).mapError (.type cs)

/-- Reads a string constant from behind its opening quote up to its closing quote. Two quotes stand
for one. The result holds the text behind the closing quote. -/
def readConstant? : List Char → Option (List Char × List Char)
  | [] => none
  | '\'' :: '\'' :: rest => (readConstant? rest).map fun r => ('\'' :: r.1, r.2)
  | c :: rest =>
    if c = '\'' then some ([], rest)
    else (readConstant? rest).map fun r => (c :: r.1, r.2)

/-- Reads an operand that has no white space around it. -/
def read (cs : List Char) : Except OperandError Operand :=
  if cs.isEmpty then .error .empty
  else if cs = ['?'] then .ok .untyped
  else if (cs.take 6).map Text.upperChar = "NULL::".toList then
    (readType (cs.drop 6)).map .null
  else match cs with
    | '\'' :: rest =>
      match readConstant? rest with
      | some (text, ':' :: ':' :: source) =>
        (readType source).map (.constant (String.ofList text))
      | _ => .error (.untypedConstant cs)
    | _ => (readType cs).map .typed

end Operand

/-- The diagnostic for a text that is not an operand. -/
def OperandError.diagnostic : OperandError → Diagnostic
  | empty => .ofCode .syntaxError "syntax error: empty operand"
  | untypedConstant text =>
    .ofCode .syntaxError
      ("syntax error: string constant " ++ String.ofList text ++
        " must be cast to a type with ::")
  | type source cause => cause.diagnostic (Text.quote (String.ofList source))

namespace Site

/-! ### Operands -/

/-- Cut texts with a text in front of the first one. -/
def prepend (cs : List Char) (r : List (List Char) × List Char) :
    List (List Char) × List Char :=
  match r.1 with
  | first :: others => ((cs ++ first) :: others, r.2)
  | [] => ([cs], r.2)

/-- The texts between the separating commas, from behind an opening parenthesis at the given depth
up to the parenthesis that closes the list, and the text behind that. -/
def segments? (depth : Nat) (quoted : Bool) :
    List Char → Option (List (List Char) × List Char)
  | [] => none
  | c :: rest =>
    if quoted then (segments? depth (c ≠ '\'') rest).map (prepend [c])
    else if c = '\'' then (segments? depth true rest).map (prepend [c])
    else if c = '(' then (segments? (depth + 1) false rest).map (prepend [c])
    else if c = ')' then
      if depth ≤ 1 then some ([[]], rest) else (segments? (depth - 1) false rest).map (prepend [c])
    else if c = ',' ∧ depth = 1 then
      (segments? depth false rest).map fun r => ([] :: r.1, r.2)
    else (segments? depth false rest).map (prepend [c])

/-- The operand texts from behind the opening parenthesis, and the text behind the closing one. A
single blank text means that there are no operands. -/
def splitOperands? (cs : List Char) : Option (List (List Char) × List Char) :=
  (segments? 1 false cs).map fun r =>
    let texts := r.1.map Text.trimList
    (if texts = [[]] then [] else texts, r.2)

/-- Reads operands from a position on. -/
def readOperands (position : Nat) : List (List Char) → Except SiteError (List Operand)
  | [] => .ok []
  | text :: rest => do
    let o ← (Operand.read text).mapError (.operand position)
    let os ← readOperands (position + 1) rest
    .ok (o :: os)

/-! ### Options of a call -/

/-- The words of a text that may hold stray bytes. -/
def pieceWords (pieces : List Text.Piece) : List (List Text.Piece) :=
  (Text.splitAtAll (fun p => (p.char?.map Text.isSpace).getD false) pieces).filter
    fun word => !word.isEmpty

/-- A word in lower case; a word with stray bytes is no keyword. -/
def keyword? (word : List Text.Piece) : Option String :=
  (word.mapM Text.Piece.char?).map fun cs => String.ofList (cs.map Text.lowerChar)

/-- The family that a word names. -/
def wordFamily? (word : List Text.Piece) : Option Family :=
  (word.mapM Text.Piece.char?).bind fun cs => Family.ofName? (String.ofList cs)

/-- Reads the options of a call onto the context `c`, word by word. -/
def readOptions (options : List Text.Piece) (c : ReturnContext) :
    List (List Text.Piece) → Except SiteError ReturnContext
  | [] => .ok c
  | [word] =>
    match keyword? word with
    | some "expr" => .ok { c with wantsValue := true }
    | some "nonnull" => .ok { c with nonNull := true }
    | some "returns" => .error (.missingFamily options)
    | _ => .error (.unexpectedOption options word)
  | word :: next :: rest =>
    match keyword? word with
    | some "expr" => readOptions options { c with wantsValue := true } (next :: rest)
    | some "nonnull" => readOptions options { c with nonNull := true } (next :: rest)
    | some "returns" =>
      match wordFamily? next with
      | none => .error (.unknownFamily next)
      | some f => readOptions options { c with desired := some f, wantsValue := true } rest
    | _ => .error (.unexpectedOption options word)

/-- Reads the options of a call without a host signature. -/
def readContext (options : List Text.Piece) : Except SiteError ReturnContext :=
  readOptions options {} (pieceWords options)

/-- The keyword in front of a host signature. -/
def hostKeyword : String := "signature"

/-- The number of bytes in front of the first occurrence of a word in a text. -/
def byteOffset? (word : List Char) : List Char → Option Nat
  | [] => none
  | c :: rest =>
    if word.isPrefixOf (c :: rest) then some 0
    else (byteOffset? word rest).map (c.utf8Size + ·)

/-- Reads the host signature behind a byte offset. An offset inside a character leaves a stray byte
in front, with which no host signature starts. -/
def readHost (rest : List Char) (offset : Nat) : Except SiteError HostSignature :=
  match Text.cutAt offset rest with
  | .between _ after =>
    let source := Text.trimList after
    (HostSignature.read source).mapError (.host (Text.quote (String.ofList source)))
  | .inside _ _ right after =>
    let after := (after.reverse.dropWhile Text.isSpace).reverse
    .error (.host (Text.quotePieces (right.map .stray ++ after.map .char)) .noParentheses)
  | .beyond => .error .hostBeyondEnd

/-- The text in front of a byte offset. -/
def piecesBefore (rest : List Char) (offset : Nat) : List Text.Piece :=
  match Text.cutAt offset rest with
  | .between before _ => before.map .char
  | .inside before left _ _ => before.map .char ++ left.map .stray
  | .beyond => rest.map .char

/-- Reads what stands behind the operands of a call. The host signature starts at its keyword, which
is looked for in lower case: where the lower case of a character has another size, the bytes that
are counted to the keyword lead to another place. -/
def readCallOptions (rest : List Char) :
    Except SiteError (ReturnContext × Option HostSignature) :=
  match byteOffset? hostKeyword.toList (rest.map Text.lowerChar) with
  | none => (readContext (rest.map .char)).map fun c => (c, none)
  | some offset => do
    let host ← readHost rest (offset + hostKeyword.length)
    let context ← readContext (piecesBefore rest offset)
    .ok (context, some host)

/-! ### Sites -/

/-- What the words in front of the operands announce. -/
inductive Opening where
  | call (name : String)
  | merge (keyword : MergeKeyword)

/-- Reads the words in front of the operands. -/
def readOpening? : List (List Char) → Option Opening
  | [word, name] =>
    if Text.equalFold (String.ofList word) "call" then some (.call (String.ofList name)) else none
  | [word] =>
    if Text.equalFold (String.ofList word) "coalesce" then some (.merge .coalesce)
    else if Text.equalFold (String.ofList word) "value" then some (.merge .value)
    else none
  | _ => none

/-- Reads what stands behind the operands, where a merge ends and a call has its options. -/
def Opening.complete (ops : List Operand) (rest : List Char) : Opening → Except SiteError Site
  | .merge keyword =>
    if (Text.trimList rest).isEmpty then .ok (.merge keyword ops) else .error .trailingText
  | .call name => (readCallOptions rest).map fun r => .call name ops r.1 r.2

/-- Reads a site. -/
def read (line : List Char) : Except SiteError Site :=
  match line.dropWhile (· != '(') with
  | [] => .error .noParenthesis
  | _ :: body =>
    match readOpening? (Text.wordList (line.takeWhile (· != '('))) with
    | none => .error .noKeyword
    | some opening =>
      match splitOperands? body with
      | none => .error .unbalanced
      | some (texts, rest) => do
        let ops ← readOperands 0 texts
        opening.complete ops rest

end Site

/-- The diagnostic for a text that does not follow the grammar, given in quotes. -/
def siteSyntaxError (quoted reason : String) : Diagnostic :=
  .ofCode .syntaxError ("syntax error in " ++ quoted ++ ": " ++ reason)

/-- What becomes of a text that is not a site. -/
def SiteError.abort (line : String) : SiteError → Abort
  | noParenthesis => .error (siteSyntaxError (Text.quote line) "expected (")
  | noKeyword =>
    .error (siteSyntaxError (Text.quote line) "expected call NAME, coalesce or value")
  | unbalanced =>
    .error (siteSyntaxError (Text.quote line) "unbalanced parentheses or quotes")
  | operand position cause =>
    .error (.placed position
      (.inContext ("operand " ++ toString (position + 1)) cause.diagnostic))
  | trailingText => .error (siteSyntaxError (Text.quote line) "unexpected trailing text")
  | host quoted cause => .error (cause.diagnostic quoted)
  | missingFamily options =>
    .error (siteSyntaxError (Text.quotePieces options) "expected a type family after returns")
  | unknownFamily word =>
    .error (.ofCode .undefinedType ("type " ++ Text.quotePieces word ++ " does not exist"))
  | unexpectedOption options word =>
    .error (siteSyntaxError (Text.quotePieces options)
      ("unexpected " ++ String.ofList (word.map Text.Piece.shown)))
  | hostBeyondEnd => .crash .outOfBounds

/-- The site that a text spells. -/
def Site.parse (line : String) : Except Abort Site :=
  (Site.read line.toList).mapError (·.abort line)

namespace Statement

/-- Whether a line, without white space around it, holds no site. -/
def isSkipped (line : List Char) : Bool :=
  line.isEmpty || "--".toList.isPrefixOf line

/-- Puts the name of the statement and the number of the line in front of an error. -/
def abortAt (name : String) (number : Nat) : Abort → Abort
  | .error d => .error (.inContext (name ++ ": line " ++ toString number) d)
  | .crash c => .crash c

/-- Reads the sites of lines that are counted from a number on. -/
def readLines (name : String) (number : Nat) : List (List Char) → Except Abort (List Site)
  | [] => .ok []
  | line :: rest =>
    let text := Text.trimList line
    if isSkipped text then readLines name (number + 1) rest
    else do
      let site ← (Site.parse (String.ofList text)).mapError (abortAt name number)
      let sites ← readLines name (number + 1) rest
      .ok (site :: sites)

/-- The statement that a text spells. -/
def parse (name text : String) : Except Abort Statement :=
  (readLines name 1 (Text.splitAtAll (· = '\n') text.toList)).map fun sites => ⟨name, sites⟩

end Statement

end SqlTyping
