import SqlTyping.Diagnostic
import SqlTyping.SqlType
import SqlTyping.Text.Case
import SqlTyping.Text.Numeral
import SqlTyping.Unification.Attributes

/-!
# Decimal values

Decimal numbers as strings write them, and their fit into a DECIMAL type: a number is rounded to
the scale of the type, a half away from zero, and must then have no more digits than the precision.
-/

namespace SqlTyping

/-- The number `coefficient * 10 ^ exponent`, negated if `negative` holds. Zero has two signs. -/
structure Decimal where
  negative : Bool
  coefficient : Nat
  exponent : Int
  deriving DecidableEq

/-- What a string can stand for: a finite number or one of the special values. -/
inductive DecimalValue where
  | finite (d : Decimal)
  | infinite (negative : Bool)
  | notANumber (negative signalling : Bool)
  deriving DecidableEq

namespace Decimal

/-! ### Reading -/

/-- The largest exponent of a number in scientific form; its negative is the smallest one. -/
def exponentLimit : Int := 100000

/-- Why a string does not stand for a number. -/
inductive ReadError where
  /-- A second sign follows the sign. -/
  | sign
  /-- The payload behind NaN is no number of 64 bits. -/
  | payload (text : List Char) (cause : Text.NumeralError)
  /-- The text behind the exponent mark is no number of 32 bits. -/
  | exponent (text : List Char) (cause : Text.NumeralError)
  /-- The text in front of the exponent, without its point, is not all digits. -/
  | mantissa (text : List Char)
  | exponentRange
  deriving DecidableEq

/-- The message about a string that does not stand for a number. -/
def ReadError.message (source : String) : ReadError → String
  | sign => "could not parse: " ++ source
  | payload text cause =>
    let text := String.ofList text
    "parse payload: " ++ text ++ ": strconv.ParseUint: parsing " ++ Text.quote text ++ ": " ++
      cause.reason
  | exponent text cause =>
    let text := String.ofList text
    "parse exponent: " ++ text ++ ": " ++ cause.message (Text.quote text)
  | mantissa text => "parse mantissa: " ++ String.ofList text
  | exponentRange => "exponent out of range"

/-- The text without a word in front, and whether the word was there. -/
def dropWord (word : String) (cs : List Char) : List Char × Bool :=
  if word.toList.isPrefixOf cs then (cs.drop word.length, true) else (cs, false)

/-- Splits a text at the first occurrence of a character. -/
def splitFirst (c : Char) (cs : List Char) : List Char × Option (List Char) :=
  match cs.dropWhile (· != c) with
  | [] => (cs, none)
  | _ :: after => (cs.takeWhile (· != c), some after)

/-- Reads the digits of a coefficient. -/
def readCoefficient? (cs : List Char) : Option Nat :=
  let digits := match cs with
    | '+' :: rest => rest
    | _ => cs
  if !digits.isEmpty && digits.all fun c => '0' ≤ c && c ≤ '9' then
    some (digits.foldl (fun n c => n * 10 + (c.toNat - '0'.toNat)) 0)
  else none

/-- Whether a number and the parts of its exponent are within the exponent limits. -/
def exponentAdmissible (coefficient : Nat) (written shift : Int) : Bool :=
  let digits := (toString coefficient).length
  let inLimits (e : Int) : Bool := -exponentLimit ≤ e && e ≤ exponentLimit
  inLimits written && inLimits shift && inLimits (written + shift) &&
    inLimits (written + shift + digits - 1)

/-- Reads a number without its sign: digits with an optional point and an optional exponent. -/
def readFinite (negative : Bool) (cs : List Char) : Except ReadError DecimalValue := do
  let (front, exponentText) := splitFirst 'e' cs
  let written ← match exponentText with
    | none => .ok 0
    | some text => (Text.readInteger 10 32 text).mapError (.exponent text)
  let (whole, fraction?) := splitFirst '.' front
  let fraction := fraction?.getD []
  let shift : Int := -(Text.bytesOf fraction).length
  match readCoefficient? (whole ++ fraction) with
  | none => .error (.mantissa (whole ++ fraction))
  | some coefficient =>
    if exponentAdmissible coefficient written shift then
      .ok (.finite ⟨negative, coefficient, written + shift⟩)
    else .error .exponentRange

/-- Reads a number or a special value, in any letter case. -/
def read (source : List Char) : Except ReadError DecimalValue :=
  let (negative, unsigned) := Text.splitSign source
  let cs := unsigned.map Text.lowerChar
  match cs with
  | '+' :: _ | '-' :: _ => .error .sign
  | _ =>
    if cs = "infinity".toList ∨ cs = "inf".toList then .ok (.infinite negative)
    else
      let (cs, quiet) := dropWord "nan" cs
      let (cs, signalling) := dropWord "snan" cs
      if quiet || signalling then
        if cs.isEmpty then .ok (.notANumber negative signalling)
        else match Text.readNatural 10 64 cs with
          | .ok _ => .ok (.notANumber negative signalling)
          | .error e => .error (.payload cs e)
      else readFinite negative cs

/-! ### Fitting a type -/

/-- A number divided by `10 ^ k` and rounded to a whole number, a half up. A number far below the
half becomes zero without a division. -/
def divideRounding (n k : Nat) : Nat :=
  if n.log2 + 1 < k then 0 else (2 * n + Nat.pow 10 k) / (2 * Nat.pow 10 k)

/-- The coefficient of a number brought to the given exponent, unless the exponents are too far
apart. The difference of the exponents is kept in 32 bits. -/
def rescaled? (d : Decimal) (exponent : Int) : Option Nat :=
  let gap := wrap32 (exponent - d.exponent)
  if gap < -exponentLimit then none
  else if gap ≤ 0 then some (d.coefficient * Nat.pow 10 (-gap).toNat)
  else some (divideRounding d.coefficient gap.toNat)

/-- The number rounded to `scale` places, if it then has at most `precision` digits. -/
def fit? (precision scale : Nat) (d : Decimal) : Option Decimal :=
  match d.rescaled? (-scale) with
  | none => none
  | some q => if q < Nat.pow 10 precision then some ⟨d.negative, q, -scale⟩ else none

/-- The diagnostic for a number that does not fit. -/
def outOfRange (precision scale : Nat) : Diagnostic :=
  let bound := if precision > scale then "10^" ++ toString (precision - scale) else "1"
  .ofCode .numericValueOutOfRange
    ("value with precision " ++ toString precision ++ ", scale " ++ toString scale ++
      " must round to an absolute value less than " ++ bound)

end Decimal

namespace DecimalValue

/-- The value as a DECIMAL type holds it. Special values fit every DECIMAL type. -/
def limit (t : SqlType) (v : DecimalValue) : Except Diagnostic DecimalValue :=
  if t.family ≠ .decimal then .error (.assertion (t.render ++ " is not a DECIMAL type"))
  else match v with
    | finite d =>
      match d.fit? t.precision t.scale with
      | some fitted => .ok (finite fitted)
      | none => .error (Decimal.outOfRange t.precision t.scale)
    | special => .ok special

/-- The value of a type that a string stands for. The string is read before the type is looked
at. -/
def parse (t : SqlType) (source : String) : Except Diagnostic DecimalValue :=
  match Decimal.read source.toList with
  | .error e =>
    .error (.wrap .invalidCharacterValue ("invalid character value for cast to " ++ t.render)
      (.text (e.message source)))
  | .ok v => v.limit t

/-- The name of the kind of a value. -/
def formName : DecimalValue → String
  | finite _ => "Finite"
  | infinite _ => "Infinite"
  | notANumber _ false => "NaN"
  | notANumber _ true => "NaNSignaling"

/-- Whether the value has a minus sign. -/
def isNegative : DecimalValue → Bool
  | finite d => d.negative
  | infinite negative => negative
  | notANumber negative _ => negative

end DecimalValue

/-! ### Printing -/

/-- The least adjusted exponent at which a number is written without an exponent. -/
def Decimal.positionalLimit : Int := -6

/-- The digits of a number without its sign. A zero with a negative exponent is written with all
its zeros; other small numbers and all numbers with a positive exponent are written with an
exponent. -/
def Decimal.renderMagnitude (d : Decimal) : String :=
  let digits := (toString d.coefficient).toList
  let adjusted := d.exponent + digits.length - 1
  if d.exponent ≤ 0 ∧ (adjusted ≥ positionalLimit ∨ d.coefficient = 0) then
    let places := (-d.exponent).toNat
    if places = 0 then String.ofList digits
    else
      let padded := List.replicate (places + 1 - digits.length) '0' ++ digits
      let whole := padded.length - places
      String.ofList (padded.take whole ++ '.' :: padded.drop whole)
  else
    let point := if digits.length > 1 then "." else ""
    let sign := if adjusted < 0 then "-" else "+"
    String.ofList (digits.take 1) ++ point ++ String.ofList (digits.drop 1) ++ "E" ++ sign ++
      toString adjusted.natAbs

/-- The value as text. -/
def DecimalValue.render (v : DecimalValue) : String :=
  (if v.isNegative then "-" else "") ++
    match v with
    | .finite d => d.renderMagnitude
    | .infinite _ => "Infinity"
    | .notANumber _ false => "NaN"
    | .notANumber _ true => "sNaN"

end SqlTyping
