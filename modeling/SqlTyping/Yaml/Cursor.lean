/-!
# Reading positions in YAML text

A cursor is the part of a text that is still to be read, together with the line and column at which
it starts. Problems in a text are reported by line.

A text is taken in portions of a fixed number of bytes, and a portion is checked as a whole when it
is taken. So a character that must not occur is found at most one portion ahead of the cursor.
-/

namespace SqlTyping.Yaml

/-- A position in a text. All three numbers count from zero. -/
structure Mark where
  index : Nat := 0
  line : Nat := 0
  column : Nat := 0
  deriving DecidableEq

/-- What is wrong with a text. -/
structure Problem where
  text : String
  /-- The line that is reported; zero if none is. -/
  line : Nat := 0
  deriving DecidableEq

namespace Problem

/-- A problem with the characters of a construct that starts at `context`. The construct's line is
reported, or the line reached if the construct starts on the first one. -/
def lexical (context reached : Mark) (text : String) : Problem :=
  { text
    line := if context.line ≠ 0 then context.line + 1
      else if reached.line ≠ 0 then reached.line + 1 else 0 }

/-- A problem with the order of tokens in a construct that starts at `context`. The line in front
of the construct is reported, or the line in front of the token if there is none. -/
def structural (context reached : Mark) (text : String) : Problem :=
  { text, line := if context.line ≠ 0 then context.line else reached.line }

/-- The message about a problem. -/
def message (p : Problem) : String :=
  "yaml: " ++ (if p.line = 0 then "" else "line " ++ toString p.line ++ ": ") ++ p.text

end Problem

/-! ### Classes of characters -/

/-- The character that stands for the end of a text, in which it cannot occur. -/
def endOfText : Char := Char.ofNat 0

/-- Space and tab. -/
def isBlank (c : Char) : Bool :=
  c = ' ' || c = '\t'

/-- The characters that end a line. -/
def isBreak (c : Char) : Bool :=
  c = '\n' || c = '\r' || c.toNat = 0x85 || c.toNat = 0x2028 || c.toNat = 0x2029

/-- Line ends and the end of the text. -/
def isBreakOrEnd (c : Char) : Bool :=
  isBreak c || c = endOfText

/-- White space, line ends and the end of the text. -/
def isGap (c : Char) : Bool :=
  isBlank c || isBreakOrEnd c

/-- The characters of names: letters, digits, underscore and hyphen. -/
def isNameChar (c : Char) : Bool :=
  ('0' ≤ c && c ≤ '9') || ('A' ≤ c && c ≤ 'Z') || ('a' ≤ c && c ≤ 'z') || c = '_' || c = '-'

/-- The characters that a text may contain. -/
def isAdmissible (c : Char) : Bool :=
  let n := c.toNat
  n = 9 || n = 10 || n = 13 || (0x20 ≤ n && n ≤ 0x7E) || n = 0x85 || (0xA0 ≤ n && n ≤ 0xD7FF) ||
    (0xE000 ≤ n && n ≤ 0xFFFD) || 0x10000 ≤ n

/-- The backquote, which is reserved. -/
def backquote : Char := Char.ofNat 0x60

/-- The byte order mark. -/
def byteOrderMark : Char := Char.ofNat 0xFEFF

/-! ### Cursors -/

/-- The rest of a text and the position at which it starts. -/
structure Cursor where
  input : List Char
  /-- A bound for the length of the rest. -/
  size : Nat
  mark : Mark := {}
  /-- How many of the next characters are in hand. The end of the text counts as characters, too. -/
  ready : Nat := 0
  /-- The first of the characters that were in hand when the last portion was taken. -/
  first : Char := endOfText
  /-- Whether a line end was passed, and nothing but blanks since. -/
  afterBreak : Bool := false

namespace Cursor

/-- The character `k` places ahead. -/
def charAt (c : Cursor) (k : Nat) : Char :=
  c.input.getD k endOfText

/-- The next character. -/
def head (c : Cursor) : Char :=
  c.charAt 0

/-- The cursor behind the next `n` characters, whatever they are. -/
def advance (c : Cursor) (n : Nat) : Cursor :=
  { c with
    input := c.input.drop n
    size := c.size - n
    mark := { c.mark with index := c.mark.index + n, column := c.mark.column + n }
    ready := c.ready - n
    afterBreak := c.afterBreak && (c.input.take n).all isBlank }

/-- The cursor at the start of the next line, `n` characters ahead. -/
def nextLine (c : Cursor) (n : Nat) : Cursor :=
  { c with
    input := c.input.drop n
    size := c.size - n
    mark := { index := c.mark.index + n, line := c.mark.line + 1, column := 0 }
    ready := c.ready - n
    afterBreak := true }

/-- Reads the end of a line, if there is one. The two separators keep their character; all other
line ends become a line feed. -/
def takeBreak (c : Cursor) : List Char × Cursor :=
  match c.input with
  | '\r' :: '\n' :: _ => (['\n'], c.nextLine 2)
  | b :: _ =>
    if isBreak b then
      (if b.toNat = 0x2028 ∨ b.toNat = 0x2029 then [b] else ['\n'], c.nextLine 1)
    else ([], c)
  | [] => ([], c)

/-- Whether the cursor is at the start of a line that holds the given marker and nothing that could
extend it. -/
def atMarker (c : Cursor) (marker : Char) : Bool :=
  c.mark.column = 0 && c.charAt 0 = marker && c.charAt 1 = marker && c.charAt 2 = marker &&
    isGap (c.charAt 3)

/-- Whether the cursor is at a line that starts or ends a document. -/
def atDocumentMarker (c : Cursor) : Bool :=
  c.atMarker '-' || c.atMarker '.'

/-- A problem found at the cursor, with a construct that starts at `context`. -/
def problem (c : Cursor) (context : Mark) (text : String) : Problem :=
  .lexical context c.mark text

/-! ### Portions -/

/-- The number of bytes of a portion. -/
def portionSize : Nat := 512

/-- The longest start of a text that fits into the given number of bytes. -/
def fitting : Nat → List Char → List Char
  | _, [] => []
  | room, c :: rest => if c.utf8Size ≤ room then c :: fitting (room - c.utf8Size) rest else []

/-- Takes portions until `n` characters are in hand. At the end of the text, which then counts as
one more character, this stops early. -/
def takePortions (n : Nat) : Nat → Nat → Cursor → Except Problem Cursor
  | 0, _, c => .ok c
  | fuel + 1, room, c =>
    if n ≤ c.ready then .ok c
    else
      let portion := fitting room (c.input.drop c.ready)
      if portion.isEmpty then .ok { c with ready := c.ready + 1 }
      else if portion.all isAdmissible then
        takePortions n fuel portionSize { c with ready := c.ready + portion.length }
      else .error { text := "control characters are not allowed" }

/-- The cursor with at least `n` characters in hand, if there are as many. -/
def ensure (c : Cursor) (n : Nat) : Except Problem Cursor :=
  if n ≤ c.ready then .ok c else takePortions n n portionSize { c with first := c.head }

/-- The cursor at the start of a text. A byte order mark in front belongs to the first portion, but
not to the text. -/
def ofText (text : List Char) : Except Problem Cursor :=
  let marked := text.head? = some byteOrderMark
  let input := if marked then text.drop 1 else text
  let room := if marked then portionSize - byteOrderMark.utf8Size else portionSize
  takePortions 1 1 room { input, size := input.length, first := input.headD endOfText }

/-! ### Runs of characters -/

/-- Reads characters that satisfy `p` onto `taken`, which is in reverse order. -/
def takeWhileFrom (p : Char → Bool) :
    Nat → List Char → Cursor → Except Problem (List Char × Cursor)
  | 0, taken, c => .ok (taken.reverse, c)
  | fuel + 1, taken, c =>
    if p c.head then do takeWhileFrom p fuel (c.head :: taken) (← (c.advance 1).ensure 1)
    else .ok (taken.reverse, c)

/-- The longest run of characters that satisfy `p`, and the cursor behind it. -/
def takeWhile (c : Cursor) (p : Char → Bool) : Except Problem (List Char × Cursor) := do
  takeWhileFrom p (c.size + 1) [] (← c.ensure 1)

/-- The cursor behind the longest run of characters that satisfy `p`. -/
def skipWhile (c : Cursor) (p : Char → Bool) : Except Problem Cursor :=
  (c.takeWhile p).map Prod.snd

/-- The cursor at the end of the line. -/
def skipLine (c : Cursor) : Except Problem Cursor :=
  c.skipWhile fun d => !isBreakOrEnd d

/-- The cursor behind the end of a line, if there is one. -/
def skipBreak (c : Cursor) : Except Problem Cursor := do
  if isBreak c.head then return (← c.ensure 2).takeBreak.2 else return c

end Cursor

end SqlTyping.Yaml
