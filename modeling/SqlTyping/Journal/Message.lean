import SqlTyping.Journal.Datum
import SqlTyping.Text.Masked

/-!
# Messages with sensitive parts

A message is a list of spans, each of which is either public or sensitive. It can be shown in two
ways: as plain text, or with redaction marks around its sensitive parts, so that these can be
removed later. An argument of a message is sensitive unless it is declared safe.
-/

namespace SqlTyping

/-- A part of a message. -/
structure Span where
  text : String
  sensitive : Bool := false
  deriving DecidableEq

/-- A message: its parts from left to right. -/
abbrev Message := List Span

/-- An argument of a template. -/
structure Argument where
  datum : Datum
  /-- Whether the argument is declared safe. -/
  safe : Bool := false
  deriving DecidableEq

namespace Message

/-! ### Text -/

/-- The plain text of a message. Redaction marks in it are masked. -/
def plain (m : Message) : String :=
  Text.mask (String.join (m.map Span.text))

/-- Joins neighbouring sensitive spans. -/
def joinSensitive : Message → Message
  | [] => []
  | s :: rest =>
    match joinSensitive rest with
    | t :: more =>
      if s.sensitive ∧ t.sensitive then { s with text := s.text ++ t.text } :: more
      else s :: t :: more
    | [] => [s]

/-- The characters of a sensitive text between redaction marks. Line ends stay outside the marks.
The flag tells whether a mark is open. -/
def markLines : Bool → List Char → List Char
  | isOpen, [] => if isOpen then ['›'] else []
  | isOpen, c :: rest =>
    if c = '\n' then (if isOpen then ['›', c] else [c]) ++ markLines false rest
    else (if isOpen then [c] else ['‹', c]) ++ markLines true rest

/-- A span with redaction marks. -/
def markSpan (s : Span) : String :=
  if s.sensitive then String.ofList (markLines false (Text.mask s.text).toList)
  else Text.mask s.text

/-- The text of a message with redaction marks around its sensitive parts. -/
def marked (m : Message) : String :=
  String.join ((joinSensitive (m.filter fun s => !s.text.isEmpty)).map markSpan)

end Message

namespace Argument

/-- The argument as a span. Missing values have nothing to hide. -/
def span (a : Argument) (text : String) : Span :=
  ⟨text, !a.safe && a.datum != .none⟩

/-- The argument in its usual form. -/
def message (a : Argument) : Message :=
  [a.span a.datum.render]

/-- The argument with the name of its type. -/
def typed (l : Layout) (a : Argument) : Message :=
  match a.datum with
  | .none => [⟨"<nil>", false⟩]
  | d => [⟨d.typeName ++ "=", false⟩, a.span (d.usual l)]

/-- The argument under a letter of a template. The letter `T` asks for the name of its type. -/
def messageAs (l : Layout) (letter : Char) (a : Argument) : Message :=
  if letter = 'T' then
    [⟨l.pad (if a.datum = .none then a.datum.typeName else l.cut a.datum.typeName), false⟩]
  else
    match a.datum.renderAs? l letter with
    | some text => [a.span text]
    | none => ⟨"%!" ++ letter.toString ++ "(", false⟩ :: a.typed l ++ [⟨")", false⟩]

end Argument

end SqlTyping
