import SqlTyping.Diagnostic
import SqlTyping.Journal.Template
import SqlTyping.Text.Space

/-!
# The log

Entries of a log and the state of a logger: how much detail it shows, whether it keeps the redaction
marks, and how it colours its entries. An entry starts with the letter of its severity; the time of
an entry is not part of it.
-/

namespace SqlTyping

/-- How serious an entry is. -/
inductive Severity where
  | info
  | warning
  | error
  deriving DecidableEq

namespace Severity

/-- The letter with which an entry starts. -/
def letter : Severity → String
  | info => "I"
  | warning => "W"
  | error => "E"

/-- The name of a severity. -/
def name : Severity → String
  | info => "INFO"
  | warning => "WARNING"
  | error => "ERROR"

/-- The severity with a number. -/
def ofNumber? (n : Int) : Option Severity :=
  if n = 0 then some info else if n = 1 then some warning else if n = 2 then some error else none

/-- The name of the severity with a number, also if there is none. -/
def nameOfNumber (n : Int) : String :=
  ((ofNumber? n).map name).getD ("Severity(" ++ toString n ++ ")")

end Severity

/-! ### Tags -/

/-- A tag: a key with an optional value. -/
structure LogTag where
  key : String
  value : Argument
  deriving DecidableEq

namespace LogTag

/-- The tags with one more, which takes the place of an earlier tag with the same key. -/
def add (tags : List LogTag) (t : LogTag) : List LogTag :=
  if tags.any (·.key = t.key) then tags.map fun u => if u.key = t.key then t else u
  else tags ++ [t]

/-- A tag as it stands in front of a message. -/
def message (t : LogTag) : Message :=
  ⟨t.key, false⟩ ::
    (if t.value.datum = .none then [] else ⟨"=", false⟩ :: t.value.message)

/-- All tags as they stand in front of a message. -/
def messages (tags : List LogTag) : Message :=
  if tags.isEmpty then []
  else ⟨"[", false⟩ :: ([⟨",", false⟩] : Message).intercalate (tags.map message) ++ [⟨"] ", false⟩]

end LogTag

/-- What is to be logged: a template with its arguments, behind the tags of its context. Without a
context nothing can be logged. -/
structure LogRequest where
  template : String
  args : List Argument := []
  /-- The tags in the order in which they were added. -/
  context : Option (List LogTag) := some []

namespace LogRequest

/-- The message of a request with the given tags. -/
def messageWith (r : LogRequest) (tags : List LogTag) : Message :=
  LogTag.messages (tags.foldl LogTag.add []) ++ .ofTemplate r.template r.args

/-- The message of a request; it needs a context. -/
def message (r : LogRequest) : Except Crash Message :=
  match r.context with
  | some tags => .ok (r.messageWith tags)
  | none => .error (.misuse "nil context")

/-- The text of a request, outside a log. -/
def render (r : LogRequest) : Except Crash String :=
  match r.context with
  | some tags => .ok (r.messageWith tags).plain
  | none => .error .outOfBounds

end LogRequest

/-! ### Colours -/

/-- The colours of a terminal: control sequences in front of the parts of an entry. -/
structure Palette where
  info : String
  warning : String
  error : String
  time : String
  deriving DecidableEq

namespace Palette

/-- The control sequence that ends a colour. -/
def reset : String := "\x1b[0m"

/-- A palette for terminals with eight colours. -/
def eight : Palette where
  info := "\x1b[0;36;49m"
  warning := "\x1b[0;33;49m"
  error := "\x1b[0;31;49m"
  time := "\x1b[2;37;49m"

/-- A palette for terminals with 256 colours. -/
def full : Palette where
  info := "\x1b[38;5;33m"
  warning := "\x1b[38;5;214m"
  error := "\x1b[38;5;160m"
  time := "\x1b[38;5;246m"

/-- The colour of a severity. -/
def ofSeverity (p : Palette) : Severity → String
  | .info => p.info
  | .warning => p.warning
  | .error => p.error

end Palette

/-! ### Loggers -/

/-- The state of a logger. -/
structure Logger where
  /-- The level of detail up to which entries are shown. -/
  verbosity : Int := 0
  /-- Whether sensitive parts are marked. -/
  keepsMarks : Bool := false
  palette : Option Palette := none
  /-- Whether entries are thrown away. -/
  discards : Bool := false

namespace Logger

/-- Whether a level of detail is shown. -/
def shows (l : Logger) (level : Int) : Bool :=
  level ≤ l.verbosity

/-- The letter of an entry with its colours, and the place of its time. -/
def heading (l : Logger) (s : Severity) : String :=
  match l.palette with
  | none => s.letter
  | some p => p.ofSeverity s ++ s.letter ++ Palette.reset ++ p.time ++ Palette.reset

/-- The text with a line end, unless it has one. -/
def endLine (s : String) : String :=
  if s.toList.getLast? = some '\n' then s else s ++ "\n"

/-- What is written for a request. -/
def write (l : Logger) (s : Severity) (r : LogRequest) : Except Crash String := do
  let m ← r.message
  if l.discards then .ok ""
  else
    let text := if l.keepsMarks then m.marked else Text.trim m.plain
    .ok (l.heading s ++ " " ++ endLine text)

/-- What is written for a request at a level of detail. -/
def writeAt (l : Logger) (level : Int) (r : LogRequest) : Except Crash String :=
  if l.shows level then l.write .info r else .ok ""

/-- The logger that throws its entries away. -/
def discarding (l : Logger) : Logger :=
  { l with discards := true, palette := none }

end Logger

/-- A logger with its earlier states, the latest first. -/
structure LoggerStack where
  current : Logger
  earlier : List Logger := []

namespace LoggerStack

/-- Changes the logger. -/
def change (s : LoggerStack) (f : Logger → Logger) : LoggerStack :=
  ⟨f s.current, s.current :: s.earlier⟩

/-- Undoes the latest change, if there is one. -/
def undo? (s : LoggerStack) : Option LoggerStack :=
  match s.earlier with
  | [] => none
  | l :: rest => some ⟨l, rest⟩

end LoggerStack

end SqlTyping
