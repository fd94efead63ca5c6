import SqlTyping.Value.Datetime

/-!
# Timestamps in YAML text

A plain scalar that starts with a year of four digits and a hyphen may be a timestamp: a date, or a
date with a time of day, which is followed by a time zone if a letter `T` divides the two. Months,
days, hours, minutes and seconds may have one digit.
-/

namespace SqlTyping.Yaml

open Datetime

/-- Where a clock hangs. -/
inductive Zone where
  | universal
  /-- A zone that is given by its distance from universal time, which is zero. -/
  | nearby
  /-- A zone that is given by its distance from universal time in seconds. -/
  | distant (offset : Int)
  deriving DecidableEq

namespace Zone

/-- The zone at a distance from universal time. -/
def ofOffset (offset : Int) : Zone :=
  if offset = 0 then nearby else distant offset

/-- The distance from universal time in seconds. -/
def offset : Zone → Int
  | universal | nearby => 0
  | distant offset => offset

/-- Whether two mentions of zones are mentions of one zone. Zones at whole hours from twelve hours
west to fourteen hours east are known by their distance; every mention of another one stands for
itself. -/
def same : Zone → Zone → Bool
  | universal, universal => true
  | nearby, nearby => true
  | distant a, distant b => a = b && a % 3600 = 0 && -43200 ≤ a && a ≤ 50400
  | _, _ => false

/-- The position of a zone in the order of equal points in time. -/
def rank : Zone → Nat
  | universal => 0
  | nearby => 1
  | distant _ => 2

/-- The order of the zones of equal points in time. -/
def before (a b : Zone) : Bool :=
  a.rank < b.rank || (a.rank = b.rank && a.offset < b.offset)

/-- The expression that names a zone. -/
def literal : Zone → String
  | universal => "time.UTC"
  | nearby => "time.Local"
  | distant _ => "time.Location(\"\")"

end Zone

/-- A point in time, as read on a clock in the given zone. -/
structure Timestamp where
  clock : Datetime
  zone : Zone := .universal
  deriving DecidableEq

namespace Timestamp

/-- Splits off a separator. -/
def takeMark? (c : Char) : List Char → Option (List Char)
  | d :: rest => if d = c then some rest else none
  | [] => none

/-- Splits off a date. -/
def takeDate? (cs : List Char) : Option (Datetime × List Char) := do
  let (year, cs) ← takeDigits? 4 cs
  let (month, cs) ← takeHour? (← takeMark? '-' cs)
  let (day, cs) ← takeHour? (← takeMark? '-' cs)
  some ({ year, month, day }, cs)

/-- Splits off a time of day with an optional fraction of a second. -/
def takeTime? (date : Datetime) (cs : List Char) : Option (Datetime × List Char) := do
  let (hour, cs) ← takeHour? cs
  let (minute, cs) ← takeHour? (← takeMark? ':' cs)
  let (second, cs) ← takeHour? (← takeMark? ':' cs)
  let (nanosecond, cs) := takeFraction cs
  some ({ date with hour, minute, second, nanosecond }, cs)

/-- The zone that the text behind a time of day stands for. -/
def zone? (cs : List Char) : Option Zone :=
  match cs with
  | ['Z'] => some .universal
  | sign :: rest => do
    let (hours, rest) ← takeDigits? 2 rest
    let (minutes, rest) ← takeDigits? 2 (← takeMark? ':' rest)
    let offset : Int := (hours * 60 + minutes) * 60
    if !rest.isEmpty ∨ hours > 24 ∨ minutes > 60 then none
    else if sign = '+' then some (.ofOffset offset)
    else if sign = '-' then some (.ofOffset (-offset))
    else none
  | [] => none

/-- The timestamp that a text stands for. -/
def read? (cs : List Char) : Option Timestamp := do
  let (date, rest) ← takeDate? cs
  let t : Timestamp ←
    match rest with
    | [] => some { clock := date }
    | c :: rest =>
      if c = 'T' ∨ c = 't' then do
        let (clock, rest) ← takeTime? date rest
        let zone ← zone? rest
        some { clock, zone }
      else if c = ' ' then do
        let (clock, rest) ← takeTime? date (rest.dropWhile (· = ' '))
        if rest.isEmpty then some { clock } else none
      else none
  if t.clock.inRange then some t else none

/-! ### Order -/

/-- The number of days from the first day of the year 0 to a date. -/
def dayNumber (d : Datetime) : Nat :=
  let leapDays := if d.year = 0 then 0 else (d.year - 1) / 4 - (d.year - 1) / 100 +
    (d.year - 1) / 400 + 1
  let months := (List.range (d.month - 1)).foldl (fun n m => n + daysInMonth d.year (m + 1)) 0
  d.year * 365 + leapDays + months + (d.day - 1)

/-- The number of whole seconds from the start of the year 0 in universal time. -/
def seconds (t : Timestamp) : Int :=
  let d := t.clock
  ((dayNumber d * 24 + d.hour) * 60 + d.minute) * 60 + d.second - t.zone.offset

/-- Whether two timestamps stand for one point in time in one zone. -/
def same (a b : Timestamp) : Bool :=
  a.seconds = b.seconds && a.clock.nanosecond = b.clock.nanosecond && a.zone.same b.zone

/-- The order of timestamps: by the fraction of their second, then by their whole seconds, then by
their zone. -/
def before (a b : Timestamp) : Bool :=
  if a.clock.nanosecond ≠ b.clock.nanosecond then a.clock.nanosecond < b.clock.nanosecond
  else if a.seconds ≠ b.seconds then a.seconds < b.seconds
  else a.zone.before b.zone

/-! ### Text -/

/-- The digits of a fraction of a second behind a point, without trailing zeros. -/
def renderFraction (nanosecond : Nat) : String :=
  if nanosecond = 0 then ""
  else
    let digits := (padded 9 nanosecond).toList
    "." ++ String.ofList (digits.reverse.dropWhile (· = '0')).reverse

/-- The distance from universal time in hours and minutes. -/
def renderOffset (offset : Int) : String :=
  let minutes := offset.natAbs / 60
  (if offset < 0 then "-" else "+") ++ padded 2 (minutes / 60) ++ padded 2 (minutes % 60)

/-- The text of a timestamp: date, time, distance from universal time, and name of the zone. A zone
other than universal time is named by its distance. -/
def render (t : Timestamp) : String :=
  let d := t.clock
  padded 4 d.year ++ "-" ++ padded 2 d.month ++ "-" ++ padded 2 d.day ++ " " ++
    padded 2 d.hour ++ ":" ++ padded 2 d.minute ++ ":" ++ padded 2 d.second ++
    renderFraction d.nanosecond ++ " " ++ renderOffset t.zone.offset ++ " " ++
    (if t.zone.offset = 0 then "UTC" else renderOffset t.zone.offset)

/-- The English names of the months. -/
def monthNames : List String :=
  ["January", "February", "March", "April", "May", "June", "July", "August", "September",
   "October", "November", "December"]

/-- The expression that builds a timestamp. -/
def literal (t : Timestamp) : String :=
  let d := t.clock
  "time.Date(" ++ toString d.year ++ ", time." ++ monthNames.getD (d.month - 1) "" ++ ", " ++
    ", ".intercalate
      ([d.day, d.hour, d.minute, d.second, d.nanosecond].map fun n => toString n) ++
    ", " ++ t.zone.literal ++ ")"

end Timestamp

end SqlTyping.Yaml
