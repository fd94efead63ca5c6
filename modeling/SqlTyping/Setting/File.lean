import SqlTyping.Setting
import SqlTyping.Yaml.Decoding
import SqlTyping.Yaml.Node.Reader

/-!
# Settings files

The form in which values of settings are given outside a program: a YAML mapping from keys to
scalars.
-/

namespace SqlTyping.SettingsFile

open Yaml

/-- How the entries of a file are decoded. -/
def entryDecoding : Scope → Node → Decoding (List (Text.Raw × Value)) :=
  Decoding.table "map[string]interface \x7b\x7d"

/-- The entries of a file in the order of their keys. A file without a document has none. -/
def read (text : String) : Except Unreadable (List (Text.Raw × Value)) := do
  match ← (Document.read text.toList).mapError fun p => .message p.message with
  | none => .ok []
  | some document =>
    let entries ← document.decode entryDecoding
    .ok (entries.mergeSort fun a b => !b.1.before a.1)

/-- The text of a value that a setting can have: anything but a list, a table or null. -/
def scalarText? : Value → Option Text.Raw
  | .list _ | .table _ | .scalar .null => none
  | v => some v.render

/-- Sets one setting. A text with stray bytes is neither a key nor the text of a value. -/
def applyEntry (r : Registry) (values : Values) (key raw : Text.Raw) :
    Except Diagnostic Values :=
  match key.string? with
  | none => .error (Registry.unknownKey (Text.quotePieces key))
  | some key =>
    match raw.string?, r.find? key with
    | some raw, _ => r.set values key raw
    | none, none => .error (Registry.unknownKey (Text.quote key))
    | none, some s =>
      .error (.inContext ("setting " ++ Text.quote key)
        (s.misread (Text.quotePieces raw) .malformed))

/-- Sets the settings to the given values, up to the first one that fails. -/
def apply (r : Registry) (values : Values) : List (Text.Raw × Value) → Values × Option Diagnostic
  | [] => (values, none)
  | (key, v) :: rest =>
    match scalarText? v with
    | none =>
      (values, some (.plain ("setting " ++ Text.quotePieces key ++ ": expected a scalar value")))
    | some raw =>
      match applyEntry r values key raw with
      | .error d => (values, some d)
      | .ok values => apply r values rest

/-- The error about a file of which no entries can be made out. -/
def unreadable (message : String) : Diagnostic :=
  .inContext "decoding settings" (.text message)

/-- The values after a file has been applied. If an entry fails, those before it stay applied. -/
def load (r : Registry) (values : Values) (text : String) : Values × Option Abort :=
  match read text with
  | .error e => (values, some (e.abort unreadable))
  | .ok entries =>
    let (values, failure) := apply r values entries
    (values, failure.map .error)

end SqlTyping.SettingsFile
