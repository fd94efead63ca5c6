/-!
# Texts as bytes

Some offsets count bytes of the UTF-8 form of a text. A cut at such an offset can fall inside a
character; `decode` reads the bytes back and reports the bytes that belong to no character.
-/

namespace SqlTyping.Text

/-- The UTF-8 bytes of a list of characters. -/
def bytesOf (cs : List Char) : List UInt8 :=
  cs.flatMap String.utf8EncodeChar

/-- What a position of a byte string holds: a character, or a byte outside every character. -/
inductive Piece where
  | char (c : Char)
  | stray (b : UInt8)
  deriving DecidableEq

/-- The character of a piece. -/
def Piece.char? : Piece → Option Char
  | .char c => some c
  | .stray _ => none

/-- The character that stands for a piece in a text; stray bytes become replacement characters. -/
def Piece.shown : Piece → Char
  | .char c => c
  | .stray _ => Char.ofNat 0xFFFD

/-- Whether a byte can stand after the first byte of a character. -/
def isContinuation (b : UInt8) : Bool :=
  0x80 ≤ b && b ≤ 0xBF

/-- The six bits that a continuation byte contributes. -/
def lowBits (b : UInt8) : Nat :=
  b.toNat % 64

/-- The character that starts with the byte `b`, and how many of the bytes `rest` belong to it.
Overlong forms and surrogates are no characters. -/
def decodeFirst (b : UInt8) (rest : List UInt8) : Option (Char × Nat) :=
  let n := b.toNat
  if n < 0x80 then some (Char.ofNat n, 0)
  else if 0xC2 ≤ n && n ≤ 0xDF then
    match rest with
    | b1 :: _ =>
      if isContinuation b1 then some (Char.ofNat ((n - 0xC0) * 64 + lowBits b1), 1) else none
    | _ => none
  else if 0xE0 ≤ n && n ≤ 0xEF then
    match rest with
    | b1 :: b2 :: _ =>
      let code := (n - 0xE0) * 4096 + lowBits b1 * 64 + lowBits b2
      if isContinuation b1 && isContinuation b2 && 0x800 ≤ code && code.isValidChar then
        some (Char.ofNat code, 2)
      else none
    | _ => none
  else if 0xF0 ≤ n && n ≤ 0xF4 then
    match rest with
    | b1 :: b2 :: b3 :: _ =>
      let code := (n - 0xF0) * 262144 + lowBits b1 * 4096 + lowBits b2 * 64 + lowBits b3
      if isContinuation b1 && isContinuation b2 && isContinuation b3 && 0x10000 ≤ code &&
          code.isValidChar then
        some (Char.ofNat code, 3)
      else none
    | _ => none
  else none

/-- Reads bytes as characters. A byte that starts no character is reported alone. -/
def decode : List UInt8 → List Piece
  | [] => []
  | b :: rest =>
    match decodeFirst b rest with
    | some (c, n) => .char c :: decode (rest.drop n)
    | none => .stray b :: decode rest
termination_by bytes => bytes.length
decreasing_by
  all_goals simp only [List.length_drop, List.length_cons]; omega

/-- A text that may hold bytes outside every character. -/
abbrev Raw := List Piece

namespace Raw

/-- A text without stray bytes. -/
def ofString (s : String) : Raw :=
  s.toList.map .char

/-- The characters of a text, if it has no stray bytes. -/
def string? (r : Raw) : Option String :=
  (r.mapM Piece.char?).map String.ofList

/-- A text with the replacement character for every stray byte. -/
def shown (r : Raw) : String :=
  String.ofList (r.map Piece.shown)

/-- The bytes of a text. -/
def bytes (r : Raw) : List UInt8 :=
  r.flatMap fun
    | .char c => String.utf8EncodeChar c
    | .stray b => [b]

/-- The order of texts by their bytes. -/
def before (a b : Raw) : Bool :=
  decide (a.bytes < b.bytes)

end Raw

/-- Reads bytes as text, with the replacement character for every stray byte. -/
def readable (bytes : List UInt8) : String :=
  Raw.shown (decode bytes)

/-- The two parts of a text on either side of a byte offset. -/
inductive Cut where
  /-- The offset falls between two characters. -/
  | between (before after : List Char)
  /-- The offset falls inside a character, some bytes of which go to either side. -/
  | inside (before : List Char) (left right : List UInt8) (after : List Char)
  /-- The offset is behind the end. -/
  | beyond

/-- The cut with one more character in front. -/
def Cut.push (c : Char) : Cut → Cut
  | between before after => between (c :: before) after
  | inside before left right after => inside (c :: before) left right after
  | beyond => beyond

/-- Cuts a text at a byte offset. -/
def cutAt : Nat → List Char → Cut
  | 0, cs => .between [] cs
  | _ + 1, [] => .beyond
  | offset + 1, c :: rest =>
    if c.utf8Size ≤ offset + 1 then (cutAt (offset + 1 - c.utf8Size) rest).push c
    else
      let bytes := String.utf8EncodeChar c
      .inside [] (bytes.take (offset + 1)) (bytes.drop (offset + 1)) rest

end SqlTyping.Text
