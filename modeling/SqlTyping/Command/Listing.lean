import SqlTyping.Conversion
import SqlTyping.Host.Representation
import SqlTyping.Setting.Engine
import SqlTyping.SqlType
import SqlTyping.Table
import SqlTyping.Text.Numeral

/-!
# Listings

The tables about the engine itself: which families unify into which, what the families are, and
which settings there are.
-/

namespace SqlTyping.Listing

/-- The family that each pair of families unifies into. -/
def conversions : Table where
  columns := "family" :: Family.all.map Family.name
  rows := Family.all.map fun a =>
    a.name :: Family.all.map fun b => renderMeeting (a.meet? b)

/-- The precision of a family: a number, or a range if the type chooses it. -/
def precisionCell (f : Family) : String :=
  if f.nominalPrecision > 0 then toString f.nominalPrecision
  else if f.hasPrecision then "1-" ++ toString SqlType.maxDecimalPrecision
  else ""

/-- The scale of a family with a precision of its own. -/
def scaleCell (f : Family) : String :=
  if f.nominalPrecision > 0 then toString f.nominalScale else ""

/-- The largest length of a family whose types have one. -/
def lengthCell (f : Family) : String :=
  if f.hasLength then Text.withCommas f.maxLength else ""

/-- The host type of a family in a representation. -/
def hostCell (f : Family) (k : RepKind) : String :=
  ((f.hostType? k).map HostType.text).getD ""

/-- The families and their host types. -/
def families : Table where
  columns :=
    ["family", "group", "precision", "scale", "max length", "natural", "nullable", "oid"]
  rows := Family.all.map fun f =>
    [f.sqlName, f.group.name, precisionCell f, scaleCell f, lengthCell f, hostCell f .natural,
      hostCell f .nullable, toString f.oid]

/-- The settings of a registry and their values. -/
def settings (r : Registry) (values : Values) : Table where
  columns := ["variable", "type", "value", "default", "description"]
  rows := (r.keys.filterMap r.find?).map fun s =>
    [s.key, s.typeLetter, s.current values, s.valueText s.default, s.description]

end SqlTyping.Listing
