import SqlTyping.Text.Quoted

/-!
# Whole numbers as text

Reading of signed whole numbers that must fit a given number of bits, with the two ways in which
this can fail, and the grouping of digits by commas.
-/

namespace SqlTyping.Text

/-- Why a text is not a number of the required size. -/
inductive NumeralError where
  | malformed
  | outOfRange
  deriving DecidableEq

/-- The value of a digit in a base up to 36. -/
def digitValue? (base : Nat) (c : Char) : Option Nat :=
  let v? :=
    if '0' ≤ c && c ≤ '9' then some (c.toNat - '0'.toNat)
    else if 'a' ≤ c && c ≤ 'z' then some (c.toNat - 'a'.toNat + 10)
    else if 'A' ≤ c && c ≤ 'Z' then some (c.toNat - 'A'.toNat + 10)
    else none
  v?.filter (· < base)

/-- Reads digits onto the value `acc`. The first character that is no digit, or the first digit
that carries the value above `limit`, decides the error. -/
def readDigits (base limit : Nat) (acc : Nat) : List Char → Except NumeralError Nat
  | [] => .ok acc
  | c :: rest =>
    match digitValue? base c with
    | none => .error .malformed
    | some d =>
      let next := acc * base + d
      if next > limit then .error .outOfRange else readDigits base limit next rest

/-- Reads an unsigned number of at most `bits` bits. -/
def readNatural (base bits : Nat) (cs : List Char) : Except NumeralError Nat :=
  if cs.isEmpty then .error .malformed else readDigits base (Nat.pow 2 bits - 1) 0 cs

/-- The sign of a number and the text behind it. -/
def splitSign : List Char → Bool × List Char
  | '+' :: rest => (false, rest)
  | '-' :: rest => (true, rest)
  | rest => (false, rest)

/-- The base of an unsigned number and the digits behind the mark of the base. A number without
such a mark that starts with a zero is octal. -/
def splitBase : List Char → Nat × List Char
  | '0' :: m :: d :: rest =>
    if m = 'x' ∨ m = 'X' then (16, d :: rest)
    else if m = 'b' ∨ m = 'B' then (2, d :: rest)
    else if m = 'o' ∨ m = 'O' then (8, d :: rest)
    else (8, m :: d :: rest)
  | ['0', m] => (8, [m])
  | digits => (10, digits)

/-- An unsigned number with its sign, if it is a signed number of at most `bits` bits. -/
def withSign (bits : Nat) (negative : Bool) (n : Nat) : Except NumeralError Int :=
  let limit := Nat.pow 2 (bits - 1)
  if negative then
    if n > limit then .error .outOfRange else .ok (-(n : Int))
  else
    if n ≥ limit then .error .outOfRange else .ok n

/-- Reads a signed number of at most `bits` bits. -/
def readInteger (base bits : Nat) (cs : List Char) : Except NumeralError Int := do
  let (negative, digits) := splitSign cs
  let n ← readNatural base bits digits
  withSign bits negative n

/-- What is wrong with a text that is not a number of the required size. -/
def NumeralError.reason : NumeralError → String
  | malformed => "invalid syntax"
  | outOfRange => "value out of range"

/-- The message about a text, given in quotes, that is not a signed number of the required size. -/
def NumeralError.message (quoted : String) (e : NumeralError) : String :=
  "strconv.ParseInt: parsing " ++ quoted ++ ": " ++ e.reason

/-- Splits reversed digits into groups of three. -/
def groupThree : List Char → List Char
  | a :: b :: c :: d :: rest => a :: b :: c :: ',' :: groupThree (d :: rest)
  | rest => rest

/-- The decimal digits of a number with a comma between groups of three. -/
def withCommas (n : Nat) : String :=
  String.ofList (groupThree (toString n).toList.reverse).reverse

end SqlTyping.Text
