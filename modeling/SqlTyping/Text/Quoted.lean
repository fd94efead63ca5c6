import SqlTyping.Text.Printable
import SqlTyping.Text.Utf8

/-!
# Quoted text

Messages show names and values between double quotes. Inside the quotes a quote and a backslash
get a backslash, the seven common control characters their letter, and every other character that
is not printable its code; bytes outside every character are shown in hexadecimal.
-/

namespace SqlTyping.Text

/-- The hexadecimal digits of `n`, in lower case, at least `width` of them. -/
def hex (width n : Nat) : String :=
  let digits := Nat.toDigits 16 n
  String.ofList (List.replicate (width - digits.length) '0' ++ digits)

/-- One character inside quotes. -/
def escapeChar (c : Char) : String :=
  if c == '"' then "\\\""
  else if c == '\\' then "\\\\"
  else if isPrintable c then c.toString
  else
    match c.toNat with
    | 7 => "\\a"
    | 8 => "\\b"
    | 12 => "\\f"
    | 10 => "\\n"
    | 13 => "\\r"
    | 9 => "\\t"
    | 11 => "\\v"
    | n =>
      if n < 0x20 || n == 0x7F then "\\x" ++ hex 2 n
      else if n < 0x10000 then "\\u" ++ hex 4 n
      else "\\U" ++ hex 8 n

/-- One byte outside every character, inside quotes. -/
def escapeByte (b : UInt8) : String :=
  "\\x" ++ hex 2 b.toNat

/-- A text between double quotes. -/
def quote (s : String) : String :=
  "\"" ++ String.join (s.toList.map escapeChar) ++ "\""

/-- A character between single quotes. -/
def quoteChar (c : Char) : String :=
  let escaped := if c = '\'' then "\\'" else if c = '"' then "\"" else escapeChar c
  "'" ++ escaped ++ "'"

/-- The first byte of a character's UTF-8 form, read as a character of its own. -/
def firstByte (c : Char) : Char :=
  Char.ofNat ((String.utf8EncodeChar c).headD 0).toNat

/-- Characters and stray bytes between double quotes. -/
def quotePieces (pieces : List Piece) : String :=
  "\"" ++ String.join (pieces.map fun
    | .char c => escapeChar c
    | .stray b => escapeByte b) ++ "\""

/-- Bytes between double quotes. -/
def quoteBytes (bytes : List UInt8) : String :=
  quotePieces (decode bytes)

/-- The first byte of a character's UTF-8 form, between double quotes: the form in which a reader
that looks at single bytes reports a character it does not know. -/
def quoteFirstByte (c : Char) : String :=
  if c.toNat < 0x80 then quote c.toString
  else quoteBytes ((String.utf8EncodeChar c).take 1)

end SqlTyping.Text
