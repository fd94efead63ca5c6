import SqlTyping.Diagnostic
import SqlTyping.Family
import SqlTyping.Text.Quoted
import SqlTyping.Text.Space

/-!
# Datetime values

The forms in which strings represent DATE, TIME and TIMESTAMP values. A form is a sequence of
digit groups and separators. White space around a string does not count. A string that has the
shape of a form of its family stands for a value if every field is in its range, and a string
without such a shape is malformed.
-/

namespace SqlTyping

/-- A date and a time of day. -/
structure Datetime where
  year : Nat := 0
  month : Nat := 1
  day : Nat := 1
  hour : Nat := 0
  minute : Nat := 0
  second : Nat := 0
  nanosecond : Nat := 0
  deriving DecidableEq

namespace Datetime

/-! ### The calendar -/

/-- Leap years of the Gregorian calendar, which is extended to all years. -/
def isLeapYear (year : Nat) : Bool :=
  year % 4 == 0 && (year % 100 != 0 || year % 400 == 0)

/-- The number of days of a month. -/
def daysInMonth (year month : Nat) : Nat :=
  if month = 2 then if isLeapYear year then 29 else 28
  else if month ∈ [4, 6, 9, 11] then 30
  else 31

/-- Whether every field is in its range. -/
def inRange (d : Datetime) : Bool :=
  1 ≤ d.month && d.month ≤ 12 && 1 ≤ d.day && d.day ≤ daysInMonth d.year d.month &&
    d.hour ≤ 23 && d.minute ≤ 59 && d.second ≤ 59

/-! ### Forms -/

/-- One part of a form. -/
inductive Part where
  /-- The year, in four digits. -/
  | year
  /-- The month, in two digits. -/
  | month
  /-- The day of the month, in two digits. -/
  | day
  /-- The hour, in one or two digits. -/
  | hour
  /-- The hour before or after noon, in two digits. -/
  | halfDayHour
  /-- The minute, in two digits. -/
  | minute
  /-- The second, in two digits. -/
  | second
  /-- An optional fraction of a second: a point or a comma and any number of digits. -/
  | fraction
  /-- The letters `AM` or `PM`. -/
  | halfDay
  /-- A separator. -/
  | mark (c : Char)
  deriving DecidableEq

/-- What the shape of a string tells before the ranges of its fields are checked. -/
structure Fields where
  value : Datetime := {}
  /-- The hour of the half day. -/
  halfDayHour : Option Nat := none
  /-- Whether the time is after noon. -/
  afternoon : Bool := false
  deriving DecidableEq

/-- Whether a character is a decimal digit. -/
def isDigit (c : Char) : Bool :=
  '0' ≤ c && c ≤ '9'

/-- The number that decimal digits stand for. -/
def digitsValue (cs : List Char) : Nat :=
  cs.foldl (fun n c => n * 10 + (c.toNat - '0'.toNat)) 0

/-- Splits off exactly `n` digits. -/
def takeDigits? (n : Nat) (cs : List Char) : Option (Nat × List Char) :=
  let digits := cs.take n
  if digits.length = n ∧ digits.all isDigit then some (digitsValue digits, cs.drop n) else none

/-- Splits off two digits, or one if no second one follows. -/
def takeHour? (cs : List Char) : Option (Nat × List Char) :=
  (takeDigits? 2 cs).or (takeDigits? 1 cs)

/-- The nanoseconds that the digits of a fraction stand for. Digits behind the ninth are
dropped. -/
def nanoseconds (digits : List Char) : Nat :=
  digitsValue (digits.take 9) * Nat.pow 10 (9 - digits.length)

/-- Splits off a fraction of a second, if there is one. -/
def takeFraction (cs : List Char) : Nat × List Char :=
  match cs with
  | c :: rest =>
    let digits := rest.takeWhile isDigit
    if (c = '.' ∨ c = ',') ∧ !digits.isEmpty then (nanoseconds digits, rest.dropWhile isDigit)
    else (0, cs)
  | [] => (0, cs)

/-- Splits off one part of a form, if the text starts with it. -/
def takePart? (part : Part) (f : Fields) (cs : List Char) : Option (Fields × List Char) :=
  match part with
  | .year => (takeDigits? 4 cs).map fun r => ({ f with value.year := r.1 }, r.2)
  | .month => (takeDigits? 2 cs).map fun r => ({ f with value.month := r.1 }, r.2)
  | .day => (takeDigits? 2 cs).map fun r => ({ f with value.day := r.1 }, r.2)
  | .hour => (takeHour? cs).map fun r => ({ f with value.hour := r.1 }, r.2)
  | .halfDayHour => (takeDigits? 2 cs).map fun r => ({ f with halfDayHour := some r.1 }, r.2)
  | .minute => (takeDigits? 2 cs).map fun r => ({ f with value.minute := r.1 }, r.2)
  | .second => (takeDigits? 2 cs).map fun r => ({ f with value.second := r.1 }, r.2)
  | .fraction =>
    let r := takeFraction cs
    some ({ f with value.nanosecond := r.1 }, r.2)
  | .halfDay =>
    match cs with
    | 'A' :: 'M' :: rest => some (f, rest)
    | 'P' :: 'M' :: rest => some ({ f with afternoon := true }, rest)
    | _ => none
  | .mark c =>
    match cs with
    | d :: rest => if d = c then some (f, rest) else none
    | [] => none

/-- A form: its parts from left to right. -/
abbrev Form := List Part

/-- The fields of a text that has the shape of the form, onto the fields `f`. -/
def Form.fields? (form : Form) (f : Fields) (cs : List Char) : Option Fields :=
  match form with
  | [] => if cs.isEmpty then some f else none
  | part :: rest =>
    match takePart? part f cs with
    | some (g, after) => Form.fields? rest g after
    | none => none

/-- The value that fields stand for, if they are in their ranges. In a half day, the hour counts
from 0 to 12; at 12 AM the day begins, and hours after noon are raised by 12. -/
def Fields.value? (f : Fields) : Option Datetime :=
  let timed? :=
    match f.halfDayHour with
    | none => some f.value
    | some h =>
      if h > 12 then none
      else if f.afternoon then some { f.value with hour := if h < 12 then h + 12 else h }
      else some { f.value with hour := if h = 12 then 0 else h }
  timed?.filter inRange

/-- A date in the ISO style, such as `2024-01-31`. -/
def isoDate : Form := [.year, .mark '-', .month, .mark '-', .day]

/-- A date in the style of the USA, such as `01/31/2024`. -/
def usaDate : Form := [.month, .mark '/', .day, .mark '/', .year]

/-- A date in the European style, such as `31.01.2024`. -/
def europeanDate : Form := [.day, .mark '.', .month, .mark '.', .year]

/-- The forms of a date. -/
def dateForms : List Form := [isoDate, usaDate, europeanDate]

/-- The forms of a time of day. -/
def timeForms : List Form :=
  [[.hour, .mark ':', .minute, .mark ':', .second, .fraction],
   [.hour, .mark ':', .minute],
   [.hour, .mark '.', .minute, .mark '.', .second, .fraction],
   [.hour, .mark '.', .minute],
   [.halfDayHour, .mark ':', .minute, .mark ' ', .halfDay]]

/-- The forms of a timestamp. -/
def timestampForms : List Form :=
  [isoDate ++ [.mark ' ', .hour, .mark ':', .minute, .mark ':', .second, .fraction],
   isoDate ++ [.mark '-', .hour, .mark '.', .minute, .mark '.', .second, .fraction],
   isoDate ++ [.mark ' ', .hour, .mark ':', .minute],
   isoDate]

/-- The forms of a family; only datetime families have any. -/
def forms? : Family → Option (List Form)
  | .date => some dateForms
  | .time => some timeForms
  | .timestamp => some timestampForms
  | _ => none

/-! ### Reading -/

/-- Why a string does not stand for a value. -/
inductive ReadError where
  /-- The family has no datetime values. -/
  | notDatetime
  /-- The string has the shape of no form. -/
  | malformed
  /-- The string has the shape of a form, but a field is out of range. -/
  | outOfRange
  deriving DecidableEq

/-- The value of a family that a string stands for. -/
def read (f : Family) (source : List Char) : Except ReadError Datetime :=
  match forms? f with
  | none => .error .notDatetime
  | some forms =>
    let text := Text.trimList source
    match forms.findSome? fun form => form.fields? {} text with
    | none => .error .malformed
    | some fields =>
      match fields.value? with
      | none => .error .outOfRange
      | some d => .ok d

/-- The diagnostic for a string that does not stand for a value of a family. -/
def ReadError.diagnostic (n : FamilyNumber) (source : String) : ReadError → Diagnostic
  | notDatetime => .assertion (n.sqlName ++ " is not a datetime family")
  | malformed =>
    .ofCode .invalidDatetimeFormat
      ("the syntax of the string representation of a " ++ n.sqlName ++ " value is incorrect: " ++
        Text.quote source)
  | outOfRange =>
    .ofCode .datetimeFieldOverflow
      (Text.quote source ++ " is not a valid " ++ n.sqlName ++ ": a field is out of range")

/-- The value of a family that a string stands for. -/
def parse (f : Family) (source : String) : Except Diagnostic Datetime :=
  (read f source.toList).mapError (·.diagnostic (.ofFamily f) source)

/-- The value of the family with a number that a string stands for. -/
def parseNumbered (n : FamilyNumber) (source : String) : Except Diagnostic Datetime :=
  match n.family? with
  | some f => parse f source
  | none => .error (ReadError.notDatetime.diagnostic n source)

/-- A number with leading zeros. -/
def padded (width n : Nat) : String :=
  let digits := (toString n).toList
  String.ofList (List.replicate (width - digits.length) '0' ++ digits)

/-- The value as text, with all nine digits of the fraction. -/
def render (d : Datetime) : String :=
  padded 4 d.year ++ "-" ++ padded 2 d.month ++ "-" ++ padded 2 d.day ++ "T" ++
    padded 2 d.hour ++ ":" ++ padded 2 d.minute ++ ":" ++ padded 2 d.second ++ "." ++
    padded 9 d.nanosecond

end Datetime

end SqlTyping
