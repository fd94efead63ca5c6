import SqlTyping.Text.Quoted

/-!
# Values in messages

What can stand in a message, and how it is laid out: in which base, between which quotes, with which
sign, and in a field of which width.
-/

namespace SqlTyping

/-- What can be an argument of a template. -/
inductive Datum where
  | text (s : String)
  | int (n : Int)
  | bool (b : Bool)
  | none
  deriving DecidableEq

/-- How a value is laid out. -/
structure Layout where
  /-- Whether a sign is shown for positive numbers, and only ASCII inside quotes. -/
  plus : Bool := false
  /-- Whether the field is filled up on the right. -/
  minus : Bool := false
  /-- Whether the form shows what it is, such as the base of a number. -/
  sharp : Bool := false
  /-- Whether a space takes the place of a missing sign, or stands between bytes. -/
  space : Bool := false
  /-- Whether the field is filled up with zeros. -/
  zero : Bool := false
  /-- The least number of characters. -/
  width : Option Nat := none
  /-- The least number of digits of a number, or the greatest number of characters of a text. -/
  precision : Option Nat := none
  deriving DecidableEq

namespace Layout

/-! ### Fields -/

/-- The characters that fill up a field by the given amount. -/
def filling (l : Layout) (n : Nat) : String :=
  String.ofList (List.replicate n (if l.zero then '0' else ' '))

/-- A text, filled up to the width of its field. -/
def pad (l : Layout) (s : String) : String :=
  let missing := l.filling (l.width.getD 0 - s.length)
  if l.minus then s ++ missing else missing ++ s

/-- A text, cut to the precision. -/
def cut (l : Layout) (s : String) : String :=
  match l.precision with
  | some n => String.ofList (s.toList.take n)
  | none => s

/-! ### Numbers -/

/-- The digits of a number, in upper case if asked for. -/
def digits (base : Nat) (upper : Bool) (n : Nat) : List Char :=
  let ds := Nat.toDigits base n
  if upper then ds.map Char.toUpper else ds

/-- The least number of digits: the precision, or the width that zeros fill up. -/
def digitCount (l : Layout) (signed : Bool) : Nat :=
  match l.precision, l.width with
  | some n, _ => n
  | none, some n => if l.zero then if signed then n - 1 else n else 0
  | none, none => 0

/-- The mark of the base in front of digits. -/
def baseMark (l : Layout) (base : Nat) (upper : Bool) (ds : List Char) : String :=
  if !l.sharp then ""
  else if base = 2 then "0b"
  else if base = 8 then if ds.head? = some '0' then "" else "0"
  else if base = 16 then if upper then "0X" else "0x"
  else ""

/-- A whole number. The octal form may be marked by `0o` in addition. -/
def integer (l : Layout) (base : Nat) (upper octalMark : Bool) (n : Int) : String :=
  if l.precision = some 0 ∧ n = 0 then { l with zero := false }.filling (l.width.getD 0)
  else
    let ds := digits base upper n.natAbs
    let count := l.digitCount (n < 0 || l.plus || l.space)
    let ds := List.replicate (count - ds.length) '0' ++ ds
    let sign := if n < 0 then "-" else if l.plus then "+" else if l.space then " " else ""
    { l with zero := false }.pad
      (sign ++ (if octalMark then "0o" else "") ++ l.baseMark base upper ds ++ String.ofList ds)

/-- The code that a number stands for: numbers are read as unsigned numbers of 64 bits. -/
def code (n : Int) : Nat :=
  (n % 0x10000000000000000).toNat

/-- The character with a code; the replacement character if there is none. -/
def charOf (n : Int) : Char :=
  if (code n).isValidChar then Char.ofNat (code n) else Char.ofNat 0xFFFD

/-- One character inside quotes, in ASCII. -/
def escapeAscii (c : Char) : String :=
  if c.toNat < 0x80 then Text.escapeChar c
  else if c.toNat < 0x10000 then "\\u" ++ Text.hex 4 c.toNat
  else "\\U" ++ Text.hex 8 c.toNat

/-- The character with a code, between single quotes. -/
def quotedChar (l : Layout) (n : Int) : String :=
  let c := charOf n
  l.pad (if l.plus ∧ c.toNat ≥ 0x80 then "'" ++ escapeAscii c ++ "'" else Text.quoteChar c)

/-- The code of a character in the usual notation. -/
def codePoint (l : Layout) (n : Int) : String :=
  let ds := digits 16 true (code n)
  let count := max 4 (l.precision.getD 0)
  let shown := if l.sharp ∧ (code n).isValidChar ∧ Text.isPrintable (charOf n)
    then " '" ++ (charOf n).toString ++ "'" else ""
  { l with zero := false }.pad
    ("U+" ++ String.ofList (List.replicate (count - ds.length) '0' ++ ds) ++ shown)

/-! ### Texts -/

/-- The bytes of a text in hexadecimal. -/
def bytes (l : Layout) (upper : Bool) (s : String) : String :=
  let all := Text.bytesOf s.toList
  let shown := (all.take (l.precision.getD all.length)).map fun b =>
    let ds := digits 16 upper b.toNat
    String.ofList (List.replicate (2 - ds.length) '0' ++ ds)
  let mark := if l.sharp then if upper then "0X" else "0x" else ""
  if shown.isEmpty then l.filling (l.width.getD 0)
  else if l.space then l.pad (" ".intercalate (shown.map (mark ++ ·)))
  else l.pad (mark ++ String.join shown)

/-- Whether a text can stand between backquotes: it has no control characters but tabs, no backquote
and no byte order mark. -/
def canBackquote (s : String) : Bool :=
  s.toList.all fun c =>
    (c.toNat ≥ 0x20 || c = '\t') && c.toNat ≠ 0x60 && c.toNat ≠ 0x7F && c.toNat ≠ 0xFEFF

/-- A text between quotes. -/
def quoted (l : Layout) (s : String) : String :=
  let s := l.cut s
  if l.sharp ∧ canBackquote s then l.pad ("\x60" ++ s ++ "\x60")
  else if l.plus then l.pad ("\"" ++ String.join (s.toList.map escapeAscii) ++ "\"")
  else l.pad (Text.quote s)

end Layout

namespace Datum

/-- The text of a value. -/
def render : Datum → String
  | text s => s
  | int n => toString n
  | bool b => if b then "true" else "false"
  | none => "<nil>"

/-- The name of the type of a value. -/
def typeName : Datum → String
  | text _ => "string"
  | int _ => "int"
  | bool _ => "bool"
  | none => "<nil>"

/-- A value in its usual form. -/
def usual (l : Layout) (d : Datum) : String :=
  match d with
  | text s => l.pad (l.cut s)
  | int n => l.integer 10 false false n
  | bool _ | none => l.pad d.render

/-- A text under a letter of a template, if the letter is right for texts. -/
def textAs? (l : Layout) (letter : Char) (s : String) : Option String :=
  match letter with
  | 's' => some (l.pad (l.cut s))
  | 'q' => some (l.quoted s)
  | 'x' => some (l.bytes false s)
  | 'X' => some (l.bytes true s)
  | _ => Option.none

/-- A whole number under a letter of a template, if the letter is right for numbers. -/
def intAs? (l : Layout) (letter : Char) (n : Int) : Option String :=
  match letter with
  | 'd' => some (l.integer 10 false false n)
  | 'b' => some (l.integer 2 false false n)
  | 'o' => some (l.integer 8 false false n)
  | 'O' => some (l.integer 8 false true n)
  | 'x' => some (l.integer 16 false false n)
  | 'X' => some (l.integer 16 true false n)
  | 'c' => some (l.pad (Layout.charOf n).toString)
  | 'q' => if Layout.code n ≤ 0x10FFFF then some (l.quotedChar n) else Option.none
  | 'U' => some (l.codePoint n)
  | _ => Option.none

/-- A value under a letter of a template, if the letter is right for it. -/
def renderAs? (l : Layout) (letter : Char) (d : Datum) : Option String :=
  match letter, d with
  | 'v', text s =>
    let plain := { l with plus := false, sharp := false }
    some (if l.sharp then plain.quoted s else plain.pad (plain.cut s))
  | 'v', d => some (d.usual { l with plus := false, sharp := false })
  | _, text s => textAs? l letter s
  | _, int n => intAs? l letter n
  | 't', bool _ => some (l.pad d.render)
  | _, _ => Option.none

end Datum

end SqlTyping
