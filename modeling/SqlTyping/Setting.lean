import SqlTyping.Diagnostic
import SqlTyping.Text.Case
import SqlTyping.Text.Numeral

/-!
# Settings

Named numbers that govern an engine. A registry holds the declared settings: whole numbers with a
rule for the values they admit, and enumerations, whose values have names. The current values live
apart from the registry, so that several engines can share one.
-/

namespace SqlTyping

/-- Which values a whole-number setting admits. -/
inductive IntegerRule where
  | unrestricted
  | positive
  | range (lowest highest : Int)
  deriving DecidableEq

/-- What kind of value a setting has, with its default. -/
inductive SettingKind where
  | integer (default : Int) (rule : IntegerRule)
  /-- The values in ascending order, with their names in lower case. -/
  | enumeration (default : Int) (values : List (Int × String))
  deriving DecidableEq

/-- A declared setting. -/
structure Setting where
  key : String
  description : String
  kind : SettingKind
  deriving DecidableEq

/-- The declared settings, in the order of their declaration. -/
structure Registry where
  settings : List Setting := []
  /-- Whether declarations are closed. -/
  frozen : Bool := false

/-- The current values. A setting that is not listed has the value zero. -/
abbrev Values := List (String × Int)

/-! ### Values and their text -/

/-- Why a whole-number setting does not admit a value, if it does not. -/
def IntegerRule.objection? (rule : IntegerRule) (v : Int) : Option String :=
  match rule with
  | unrestricted => none
  | positive =>
    if v < 1 then some ("cannot set to a non-positive value: " ++ toString v) else none
  | range lowest highest =>
    if v < lowest ∨ v > highest then
      some ("expected value in range [" ++ toString lowest ++ ", " ++ toString highest ++
        "], got: " ++ toString v)
    else none

/-- The current value of a setting. -/
def Values.get (values : Values) (key : String) : Int :=
  (values.lookup key).getD 0

/-- The values with one of them replaced. -/
def Values.put (values : Values) (key : String) (v : Int) : Values :=
  (key, v) :: values.filter fun entry => entry.1 != key

namespace Setting

/-- The letter for the kind of a setting. -/
def typeLetter (s : Setting) : String :=
  match s.kind with
  | .integer .. => "i"
  | .enumeration .. => "e"

/-- The default value. -/
def default (s : Setting) : Int :=
  match s.kind with
  | .integer d _ => d
  | .enumeration d _ => d

/-- A value of the setting as text. -/
def valueText (s : Setting) (v : Int) : String :=
  match s.kind with
  | .integer .. => toString v
  | .enumeration _ values => (values.lookup v).getD ("unknown(" ++ toString v ++ ")")

/-- The current value as text. -/
def current (s : Setting) (values : Values) : String :=
  s.valueText (values.get s.key)

/-- The list of the values of an enumeration, as a hint. -/
def valuesHint (values : List (Int × String)) : String :=
  "Available values: " ++
    ", ".intercalate (values.map fun entry => toString entry.1 ++ ": " ++ entry.2)

/-- Reads the name or the number of a value of an enumeration. The result tells whether the text
stands for one of the values. -/
def readEnum (values : List (Int × String)) (raw : String) : Int × Bool :=
  match values.find? fun entry => entry.2 == Text.lower raw with
  | some entry => (entry.1, true)
  | none =>
    match Text.readInteger 10 64 raw.toList with
    | .ok v => (v, (values.lookup v).isSome)
    | .error _ => (0, false)

/-- Why the setting does not admit a value, if it does not. -/
def objection? (s : Setting) (v : Int) : Option Diagnostic :=
  match s.kind with
  | .integer _ rule => (rule.objection? v).map Diagnostic.plain
  | .enumeration _ names =>
    if (names.lookup v).isSome then none
    else some (.hinted (valuesHint names) (.plain ("invalid enum value " ++ toString v)))

/-- The values after the setting has been given a value, if it admits it. -/
def override (s : Setting) (values : Values) (v : Int) : Except Diagnostic Values :=
  match s.objection? v with
  | some d => .error d
  | none => .ok (values.put s.key v)

/-- The error about a text, given in quotes, that stands for no value of the setting. -/
def misread (s : Setting) (quoted : String) (e : Text.NumeralError) : Diagnostic :=
  match s.kind with
  | .integer .. => .inContext ("invalid integer " ++ quoted) (.text (e.message quoted))
  | .enumeration _ names =>
    .hinted (valuesHint names) (.plain ("invalid string value " ++ quoted))

/-- The value that a text stands for. -/
def readValue (s : Setting) (raw : String) : Except Diagnostic Int :=
  match s.kind with
  | .integer .. => (Text.readInteger 10 64 raw.toList).mapError (s.misread (Text.quote raw))
  | .enumeration _ names =>
    match readEnum names raw with
    | (v, true) => .ok v
    | (_, false) => .error (s.misread (Text.quote raw) .malformed)

/-- The values after the setting has been given the value that a text stands for. -/
def setText (s : Setting) (values : Values) (raw : String) : Except Diagnostic Values := do
  s.override values (← s.readValue raw)

end Setting

/-! ### The registry -/

namespace Registry

/-- The greatest number of settings. -/
def capacity : Nat := 64

/-- The setting with the given key. -/
def find? (r : Registry) (key : String) : Option Setting :=
  r.settings.find? fun s => s.key == key

/-- The keys in ascending order. -/
def keys (r : Registry) : List String :=
  (r.settings.map Setting.key).mergeSort fun a b => decide (a ≤ b)

/-- The default values of the settings declared so far. -/
def defaults (r : Registry) : Values :=
  r.settings.map fun s => (s.key, s.default)

/-- The registry with one more setting. -/
def declare (r : Registry) (s : Setting) : Except Crash Registry :=
  if r.frozen then
    .error (.misuse ("registration must occur before the engine starts: " ++ s.key))
  else if (r.find? s.key).isSome then .error (.misuse ("setting already defined: " ++ s.key))
  else if r.settings.length ≥ capacity then
    .error (.misuse ("too many settings; increase MaxSettings (" ++ s.key ++ ")"))
  else .ok { r with settings := r.settings ++ [s] }

/-- Declares a whole-number setting, whose default the rule must admit. -/
def declareInteger (r : Registry) (key description : String) (default : Int)
    (rule : IntegerRule) : Except Crash Registry :=
  match rule.objection? default with
  | some objection =>
    .error (.failed (.inContext "invalid default" (.plain objection)))
  | none => r.declare ⟨key, description, .integer default rule⟩

/-- Declares an enumeration, given its values in ascending order and the name of its default. -/
def declareEnum (r : Registry) (key description default : String)
    (values : List (Int × String)) : Except Crash Registry :=
  match values.find? fun entry => entry.2 == default with
  | none =>
    let listed := " ".intercalate (values.map fun entry => toString entry.1 ++ ":" ++ entry.2)
    .error (.failed (.assertion
      ("enum registered with default value " ++ default ++ " not in map map[" ++ listed ++ "]")))
  | some entry =>
    let lowered := values.map fun entry => (entry.1, Text.lower entry.2)
    r.declare ⟨key, description, .enumeration entry.1 lowered⟩

/-- Declares the settings `key0`, `key1`, …, each with its index as default. If one of them is
refused, those before it stay declared. -/
def declareMany (r : Registry) (key : String) : Nat → Nat → Registry × Option Crash
  | 0, _ => (r, none)
  | count + 1, index =>
    match r.declareInteger (key ++ toString index) "" index .unrestricted with
    | .error crash => (r, some crash)
    | .ok r => declareMany r key count (index + 1)

/-- The diagnostic for a key, given in quotes, that no setting has. -/
def unknownKey (quoted : String) : Diagnostic :=
  .plain ("unknown setting " ++ quoted)

/-- The values after the setting with the given key has been given the value that a text stands
for. -/
def set (r : Registry) (values : Values) (key raw : String) : Except Diagnostic Values :=
  match r.find? key with
  | none => .error (unknownKey (Text.quote key))
  | some s => (s.setText values raw).mapError (.inContext ("setting " ++ Text.quote key))

/-- The values after the setting with the given key has been given its default. -/
def reset (r : Registry) (values : Values) (key : String) : Except Diagnostic Values :=
  match r.find? key with
  | none => .error (unknownKey (Text.quote key))
  | some s => .ok (values.put key s.default)

/-- Sets several settings in the given order, up to the first one that fails. -/
def setAll (r : Registry) (values : Values) : List (String × String) → Except Diagnostic Values
  | [] => .ok values
  | (key, raw) :: rest => do setAll r (← r.set values key raw) rest

end Registry

end SqlTyping
