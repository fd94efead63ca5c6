import SqlTyping.Text.Numeral
import SqlTyping.Text.Utf8
import SqlTyping.Yaml.Token

/-!
# Scanning anchors, tags and directives
-/

namespace SqlTyping.Yaml

/-- Scans the name behind `&` or `*`. -/
def scanName (c : Cursor) : Except Problem (String × Cursor) := do
  let (name, after) ← (c.advance 1).takeWhile isNameChar
  if name.isEmpty ∨ !(isGap after.head || after.head ∈ ['?', ':', ',', ']', '}', '%', '@', backquote])
  then .error (after.problem c.mark "did not find expected alphabetic or numeric character")
  else .ok (String.ofList name, after)

/-! ### Tags -/

/-- The characters of a tag. -/
def isTagChar (c : Char) : Bool :=
  isNameChar c || c ∈ [';', '/', '?', ':', '@', '&', '=', '+', '$', ',', '.', '%', '!', '~', '*',
    '\'', '(', ')', '[', ']']

/-- Reads one byte that is written as `%` and two hexadecimal digits. -/
def scanEscapedByte (start : Mark) (c : Cursor) : Except Problem (UInt8 × Cursor) := do
  let c ← c.ensure 3
  match c.head, Text.digitValue? 16 (c.charAt 1), Text.digitValue? 16 (c.charAt 2) with
  | '%', some high, some low => .ok (UInt8.ofNat (high * 16 + low), c.advance 3)
  | _, _, _ => .error (c.problem start "did not find URI escaped octet")

/-- The number of bytes of a character whose first byte is given. -/
def byteCount? (b : UInt8) : Option Nat :=
  if b < 0x80 then some 1
  else if b &&& 0xE0 = 0xC0 then some 2
  else if b &&& 0xF0 = 0xE0 then some 3
  else if b &&& 0xF8 = 0xF0 then some 4
  else none

/-- Reads the remaining bytes of a character. -/
def scanTrailingBytes (start : Mark) : Nat → Cursor → Except Problem (List UInt8 × Cursor)
  | 0, c => .ok ([], c)
  | n + 1, c => do
    let (b, after) ← scanEscapedByte start c
    if b &&& 0xC0 ≠ 0x80 then
      .error (after.problem start "found an incorrect trailing UTF-8 octet")
    else
      let (bs, after) ← scanTrailingBytes start n after
      .ok (b :: bs, after)

/-- Reads a character that is written as escaped bytes. -/
def scanEscapedChar (start : Mark) (c : Cursor) : Except Problem (List Char × Cursor) := do
  let (b, after) ← scanEscapedByte start c
  match byteCount? b with
  | none => .error (after.problem start "found an incorrect leading UTF-8 octet")
  | some n =>
    let (bs, after) ← scanTrailingBytes start (n - 1) after
    .ok ((Text.readable (b :: bs)).toList, after)

/-- Reads the characters of a tag onto `text`. -/
def scanTagChars (start : Mark) : Nat → List Char → Cursor → Except Problem (List Char × Cursor)
  | 0, text, c => .ok (text, c)
  | fuel + 1, text, c =>
    if c.head = '%' then do
      let (cs, after) ← scanEscapedChar start c
      scanTagChars start fuel (text ++ cs) (← after.ensure 1)
    else if isTagChar c.head then do
      scanTagChars start fuel (text ++ [c.head]) (← (c.advance 1).ensure 1)
    else .ok (text, c)

/-- Reads a tag of which the given characters were read before. Of these the first one, the mark of
a tag, is dropped. There must be at least one character. -/
def scanTagSuffix (start : Mark) (before : List Char) (c : Cursor) :
    Except Problem (List Char × Cursor) := do
  let (text, after) ← scanTagChars start (c.size + 1) (before.drop 1) (← c.ensure 1)
  if before.isEmpty ∧ after.mark.index = c.mark.index then
    .error (after.problem start "did not find expected tag URI")
  else .ok (text, after)

/-- Reads the handle of a tag: `!`, `!!` or `!name!`. What follows `!` may turn out to be no
handle. -/
def scanTagHandle (start : Mark) (inDirective : Bool) (c : Cursor) :
    Except Problem (List Char × Cursor) := do
  let c ← c.ensure 1
  if c.head ≠ '!' then .error (c.problem start "did not find expected '!'")
  else
    let (name, after) ← (c.advance 1).takeWhile isNameChar
    if after.head = '!' then .ok ('!' :: name ++ ['!'], after.advance 1)
    else if inDirective ∧ !name.isEmpty then
      .error (after.problem start "did not find expected '!'")
    else .ok ('!' :: name, after)

/-- Scans a tag. The result holds its handle and its suffix. -/
def scanTag (c : Cursor) : Except Problem (TokenKind × Cursor) := do
  let c ← c.ensure 2
  let start := c.mark
  let (handle, suffix, after) ←
    if c.charAt 1 = '<' then do
      let (suffix, after) ← scanTagSuffix start [] (c.advance 2)
      if after.head ≠ '>' then .error (after.problem start "did not find the expected '>'")
      else .ok ([], suffix, after.advance 1)
    else do
      let (handle, after) ← scanTagHandle start false c
      if handle.length > 1 ∧ handle.getLast? = some '!' then do
        let (suffix, after) ← scanTagSuffix start [] after
        .ok (handle, suffix, after)
      else do
        let (suffix, after) ← scanTagSuffix start handle after
        if suffix.isEmpty then .ok ([], ['!'], after) else .ok (['!'], suffix, after)
  let after ← after.ensure 1
  if !isGap after.head then
    .error (after.problem start "did not find expected whitespace or line break")
  else .ok (.tag (String.ofList handle) (String.ofList suffix), after)

/-! ### Directives -/

/-- Reads a part of a version number, which has at most `room` digits, onto the value of the digits
in front. -/
def scanVersionDigits (start : Mark) : Nat → Nat → Cursor → Except Problem (Nat × Cursor)
  | room, n, c =>
    if '0' ≤ c.head ∧ c.head ≤ '9' then
      match room with
      | 0 => .error (c.problem start "found extremely long version number")
      | room + 1 => do
        let digit := c.head.toNat - '0'.toNat
        scanVersionDigits start room (n * 10 + digit) (← (c.advance 1).ensure 1)
    else .ok (n, c)

/-- Reads a part of a version number. -/
def scanVersionNumber (start : Mark) (c : Cursor) : Except Problem (Nat × Cursor) := do
  let c ← c.ensure 1
  let (n, after) ← scanVersionDigits start 2 0 c
  if after.mark.index = c.mark.index then
    .error (c.problem start "did not find expected version number")
  else return (n, after)

/-- Reads the version that a text is said to be in. -/
def scanVersion (start : Mark) (c : Cursor) : Except Problem (TokenKind × Cursor) := do
  let (major, after) ← scanVersionNumber start (← c.skipWhile isBlank)
  if after.head ≠ '.' then
    .error (after.problem start "did not find expected digit or '.' character")
  else
    let (minor, after) ← scanVersionNumber start (after.advance 1)
    return (.version major minor, after)

/-- Reads a handle of tags and its meaning. -/
def scanTagDirective (start : Mark) (c : Cursor) : Except Problem (TokenKind × Cursor) := do
  let (handle, after) ← scanTagHandle start true (← c.skipWhile isBlank)
  let after ← after.ensure 1
  if !isBlank after.head then
    .error (after.problem start "did not find expected whitespace")
  else
    let (stem, after) ← scanTagSuffix start [] (← after.skipWhile isBlank)
    let after ← after.ensure 1
    if !isGap after.head then
      .error (after.problem start "did not find expected whitespace or line break")
    else return (.tagDirective (String.ofList handle) (String.ofList stem), after)

/-- Scans a directive up to the end of its line. -/
def scanDirective (c : Cursor) : Except Problem (TokenKind × Mark × Cursor) := do
  let start := c.mark
  let (name, after) ← (c.advance 1).takeWhile isNameChar
  if name.isEmpty then .error (after.problem start "could not find expected directive name")
  else if !isGap after.head then
    .error (after.problem start "found unexpected non-alphabetical character")
  else
    let (kind, after) ←
      if name = "YAML".toList then scanVersion start after
      else if name = "TAG".toList then scanTagDirective start after
      else .error (after.problem start "found unknown directive name")
    let stop := after.mark
    let after ← after.skipWhile isBlank
    let after ← if after.head = '#' then after.skipLine else .ok after
    if !isBreakOrEnd after.head then
      .error (after.problem start "did not find expected comment or line break")
    else return (kind, stop, ← after.skipBreak)

end SqlTyping.Yaml
