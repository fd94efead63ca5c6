import SqlTyping.Text.Numeral
import SqlTyping.Yaml.Token

/-!
# Scanning scalars

Scalars in the five styles: literal and folded blocks, single and double quotes, and plain text.
A line end inside a quoted or plain scalar counts as a space, and every further empty line as a
line feed.
-/

namespace SqlTyping.Yaml

/-! ### Folding of white space -/

/-- White space between two parts of a scalar. -/
structure Fold where
  /-- White space in front of the first line end. -/
  blanks : List Char := []
  /-- The first line end. -/
  firstBreak : List Char := []
  /-- All further line ends. -/
  laterBreaks : List Char := []
  /-- Whether there is a line end. -/
  broken : Bool := false

/-- The text that the white space stands for. -/
def Fold.text (f : Fold) : List Char :=
  if f.broken then
    if f.firstBreak.head? = some '\n' then
      if f.laterBreaks.isEmpty then [' '] else f.laterBreaks
    else f.firstBreak ++ f.laterBreaks
  else f.blanks

/-- Reads white space and line ends. Behind a line end, a tab in front of column `indent` is a
problem of the construct that starts at `start`. -/
def scanFold (indent : Int) (start : Mark) : Nat → Fold → Cursor → Except Problem (Fold × Cursor)
  | 0, f, c => .ok (f, c)
  | fuel + 1, f, c =>
    if isBlank c.head then
      if f.broken ∧ (c.mark.column : Int) < indent ∧ c.head = '\t' then
        .error (c.problem start "found a tab character that violates indentation")
      else do
        let f := if f.broken then f else { f with blanks := f.blanks ++ [c.head] }
        scanFold indent start fuel f (← (c.advance 1).ensure 1)
    else if isBreak c.head then do
      let (b, after) := (← c.ensure 2).takeBreak
      let f := if f.broken then { f with laterBreaks := f.laterBreaks ++ b }
        else { f with blanks := [], firstBreak := b, broken := true }
      scanFold indent start fuel f (← after.ensure 1)
    else .ok (f, c)

/-! ### Plain scalars -/

/-- Whether a run of characters of a plain scalar ends here: at white space, or at an indicator. -/
def endsPlainRun (inFlow : Bool) (c : Cursor) : Bool :=
  isGap c.head || (c.head = ':' && isGap (c.charAt 1)) ||
    (inFlow && [',', '?', '[', ']', '{', '}'].contains c.head)

/-- Reads a run of characters of a plain scalar onto `run`, which is in reverse order. -/
def scanPlainRun (inFlow : Bool) :
    Nat → List Char → Cursor → Except Problem (List Char × Cursor)
  | 0, run, c => .ok (run.reverse, c)
  | fuel + 1, run, c =>
    if endsPlainRun inFlow c then .ok (run.reverse, c)
    else do scanPlainRun inFlow fuel (c.head :: run) (← (c.advance 1).ensure 2)

/-- A scanned scalar. -/
structure ScannedScalar where
  text : List Char
  /-- Where the scalar ends. -/
  stop : Mark
  /-- Whether line ends were read behind the scalar. -/
  broken : Bool := false

/-- Continues a plain scalar. -/
def scanPlainFrom (inFlow : Bool) (indent : Int) (start : Mark) :
    Nat → ScannedScalar → Fold → Cursor → Except Problem (ScannedScalar × Cursor)
  | 0, s, f, c => .ok ({ s with broken := f.broken }, c)
  | fuel + 1, s, f, c => do
    let c ← c.ensure 4
    if c.atDocumentMarker ∨ c.head = '#' then return ({ s with broken := f.broken }, c)
    let (run, after) ← scanPlainRun inFlow (c.size + 1) [] c
    let s := if run.isEmpty then s
      else { s with text := s.text ++ f.text ++ run, stop := after.mark }
    let f := if run.isEmpty then f else {}
    if isBlank after.head || isBreak after.head then
      let (f, after) ← scanFold indent start (after.size + 1) f (← after.ensure 1)
      if !inFlow ∧ (after.mark.column : Int) < indent then
        return ({ s with broken := f.broken }, after)
      else scanPlainFrom inFlow indent start fuel s f after
    else return ({ s with broken := f.broken }, after)

/-- Scans a plain scalar. Outside flow collections it ends in front of column `indent`. -/
def scanPlain (inFlow : Bool) (indent : Int) (c : Cursor) :
    Except Problem (ScannedScalar × Cursor) :=
  scanPlainFrom inFlow indent c.mark (c.size + 1) { text := [], stop := c.mark } {} c

/-! ### Quoted scalars -/

/-- The character that a letter behind a backslash stands for. -/
def escapedChar? : Char → Option Char
  | '0' => some (Char.ofNat 0)
  | 'a' => some (Char.ofNat 7)
  | 'b' => some (Char.ofNat 8)
  | 't' => some '\t'
  | '\t' => some '\t'
  | 'n' => some '\n'
  | 'v' => some (Char.ofNat 11)
  | 'f' => some (Char.ofNat 12)
  | 'r' => some '\r'
  | 'e' => some (Char.ofNat 27)
  | ' ' => some ' '
  | '"' => some '"'
  | '\'' => some '\''
  | '\\' => some '\\'
  | 'N' => some (Char.ofNat 0x85)
  | '_' => some (Char.ofNat 0xA0)
  | 'L' => some (Char.ofNat 0x2028)
  | 'P' => some (Char.ofNat 0x2029)
  | _ => none

/-- The number of hexadecimal digits behind a letter that announces a code. -/
def escapedCodeLength? : Char → Option Nat
  | 'x' => some 2
  | 'u' => some 4
  | 'U' => some 8
  | _ => none

/-- The value of hexadecimal digits, if all characters are such. -/
def hexValue? (cs : List Char) : Option Nat :=
  cs.foldlM (fun n c => (Text.digitValue? 16 c).map (n * 16 + ·)) 0

/-- Reads an escape sequence of a double-quoted scalar. -/
def scanEscape (start : Mark) (c : Cursor) : Except Problem (Char × Cursor) :=
  match escapedChar? (c.charAt 1) with
  | some e => .ok (e, c.advance 2)
  | none =>
    match escapedCodeLength? (c.charAt 1) with
    | none => .error (c.problem start "found unknown escape character")
    | some n => do
      let digits ← (c.advance 2).ensure n
      let code := digits.input.take n
      match if code.length = n then hexValue? code else none with
      | none => .error (digits.problem start "did not find expected hexdecimal number")
      | some v =>
        if v.isValidChar then .ok (Char.ofNat v, digits.advance n)
        else .error (digits.problem start "found invalid Unicode character escape code")

/-- Reads a quoted scalar up to white space, to the closing quote, or past an escaped line end. The
text is in reverse order. The result tells whether an escaped line end was read. -/
def scanQuotedRun (quote : Char) (start : Mark) :
    Nat → List Char → Cursor → Except Problem (List Char × Bool × Cursor)
  | 0, text, c => .ok (text, false, c)
  | fuel + 1, text, c =>
    if isGap c.head then .ok (text, false, c)
    else if quote = '\'' ∧ c.head = '\'' ∧ c.charAt 1 = '\'' then do
      scanQuotedRun quote start fuel ('\'' :: text) (← (c.advance 2).ensure 2)
    else if c.head = quote then .ok (text, false, c)
    else if quote = '"' ∧ c.head = '\\' then
      if isBreak (c.charAt 1) then do
        let c ← c.ensure 3
        return (text, true, (c.advance 1).takeBreak.2)
      else do
        let (e, after) ← scanEscape start c
        scanQuotedRun quote start fuel (e :: text) (← after.ensure 2)
    else do scanQuotedRun quote start fuel (c.head :: text) (← (c.advance 1).ensure 2)

/-- Continues a quoted scalar, whose text is in reverse order. -/
def scanQuotedFrom (quote : Char) (start : Mark) :
    Nat → List Char → Cursor → Except Problem (List Char × Cursor)
  | 0, text, c => .ok (text.reverse, c)
  | fuel + 1, text, c => do
    let c ← c.ensure 4
    if c.atDocumentMarker then .error (c.problem start "found unexpected document indicator")
    else if c.head = endOfText then .error (c.problem start "found unexpected end of stream")
    else
      let (text, escaped, after) ← scanQuotedRun quote start (c.size + 1) text c
      let after ← after.ensure 1
      if after.head = quote then return (text.reverse, after.advance 1)
      else
        let (f, after) ← scanFold 0 start (after.size + 1) { broken := escaped } after
        scanQuotedFrom quote start fuel (f.text.reverse ++ text) after

/-- Scans a quoted scalar, from its opening quote on. -/
def scanQuoted (c : Cursor) : Except Problem (List Char × Cursor) :=
  scanQuotedFrom c.head c.mark (c.size + 1) [] (c.advance 1)

/-! ### Block scalars -/

/-- What happens to the line ends at the end of a block scalar. -/
inductive Chomping where
  | strip
  | clip
  | keep
  deriving DecidableEq

/-- Skips the spaces in front of column `indent`, or all spaces if it is zero. -/
def skipIndentation (indent : Nat) : Nat → Cursor → Except Problem Cursor
  | 0, c => .ok c
  | fuel + 1, c =>
    if (indent = 0 ∨ c.mark.column < indent) ∧ c.head = ' ' then do
      skipIndentation indent fuel (← (c.advance 1).ensure 1)
    else .ok c

/-- Reads indentation and empty lines of a block scalar. The indentation is zero as long as it is
not known. The result holds the line ends and the largest indentation seen. -/
def scanBlockBreaks (indent : Nat) (start : Mark) :
    Nat → List Char → Nat → Cursor → Except Problem (List Char × Nat × Cursor)
  | 0, breaks, widest, c => .ok (breaks, widest, c)
  | fuel + 1, breaks, widest, c => do
    let c ← c.ensure 1
    let c ← skipIndentation indent (c.size + 1) c
    let widest := max widest c.mark.column
    if (indent = 0 ∨ c.mark.column < indent) ∧ c.head = '\t' then
      .error (c.problem start "found a tab character where an indentation space is expected")
    else if isBreak c.head then
      let (b, after) := (← c.ensure 2).takeBreak
      scanBlockBreaks indent start fuel (breaks ++ b) widest after
    else return (breaks, widest, c)

/-- Reads the lines of a block scalar. -/
def scanBlockLines (isLiteral : Bool) (indent : Nat) (start : Mark) :
    Nat → List Char → List Char → List Char → Bool → Cursor →
      Except Problem (List Char × List Char × List Char × Cursor)
  | 0, text, lead, breaks, _, c => .ok (text, lead, breaks, c)
  | fuel + 1, text, lead, breaks, indented, c =>
    if c.mark.column = indent ∧ c.head ≠ endOfText then do
      let blank := isBlank c.head
      let joined :=
        if !isLiteral ∧ !indented ∧ !blank ∧ lead.head? = some '\n' then
          if breaks.isEmpty then [' '] else []
        else lead
      let (line, after) ← c.takeWhile fun d => !isBreakOrEnd d
      let (lead, after) := (← after.ensure 2).takeBreak
      let (later, _, after) ← scanBlockBreaks indent start (after.size + 1) [] 0 after
      scanBlockLines isLiteral indent start fuel (text ++ joined ++ breaks ++ line) lead later
        blank after
    else .ok (text, lead, breaks, c)

/-- Reads the indicators behind the one that starts a block scalar: the chomping and the additional
indentation, in either order. -/
def scanBlockHeader (start : Mark) (c : Cursor) : Except Problem (Chomping × Nat × Cursor) := do
  let chomping? (d : Char) : Option Chomping :=
    if d = '+' then some .keep else if d = '-' then some .strip else none
  let digit (c : Cursor) : Except Problem (Nat × Cursor) :=
    if '0' ≤ c.head ∧ c.head ≤ '9' then
      if c.head = '0' then
        .error (c.problem start "found an indentation indicator equal to 0")
      else .ok (c.head.toNat - '0'.toNat, c.advance 1)
    else .ok (0, c)
  let c ← c.ensure 1
  match chomping? c.head with
  | some chomping =>
    let (increment, c) ← digit (← (c.advance 1).ensure 1)
    .ok (chomping, increment, c)
  | none =>
    let (increment, c) ← digit c
    let c ← c.ensure 1
    match chomping? c.head with
    | some chomping =>
      .ok (if increment > 0 then (chomping, increment, c.advance 1) else (.clip, increment, c))
    | none => .ok (.clip, increment, c)

/-- Scans a block scalar inside a collection of the given indentation. -/
def scanBlock (isLiteral : Bool) (parent : Int) (c : Cursor) :
    Except Problem (List Char × Cursor) := do
  let start := c.mark
  let (chomping, increment, c) ← scanBlockHeader start (c.advance 1)
  let c ← c.skipWhile isBlank
  let c ← if c.head = '#' then c.skipLine else .ok c
  if !isBreakOrEnd c.head then
    .error (c.problem start "did not find expected comment or line break")
  else
    let c ← c.skipBreak
    let declared := if increment = 0 then 0 else (max parent 0).toNat + increment
    let (breaks, widest, c) ← scanBlockBreaks declared start (c.size + 1) [] 0 c
    let indent := if declared = 0 then max widest (max (parent + 1).toNat 1) else declared
    let (text, lead, breaks, c) ←
      scanBlockLines isLiteral indent start (c.size + 1) [] [] breaks false (← c.ensure 1)
    let tail := match chomping with
      | .strip => []
      | .clip => lead
      | .keep => lead ++ breaks
    .ok (text ++ tail, c)

end SqlTyping.Yaml
