import SqlTyping.SqlState
import SqlTyping.Text.Masked

/-!
# Diagnostics

A diagnostic starts as a message and gathers decorations on its way out of the library: context in
front of the message, an SQLSTATE code, the position of an operand, details, hints and markers. The
decorations are kept as layers, because for codes the innermost one counts, for positions the
outermost one, and a failed assertion can seal off everything but the message of its cause.
`Diagnostic.report` reads the layers off into the flat form that a client sees.
-/

namespace SqlTyping

/-- Names for kinds of failure that callers tell apart without looking at codes. -/
inductive Marker where
  | ambiguous
  | incompatible
  | ineligibleReturn
  | nullIntoNatural
  | precisionOverflow
  | tooFewOperands
  | unresolvable
  | untypedOperands
  deriving DecidableEq

namespace Marker

/-- The markers in alphabetical order of their names. -/
def all : List Marker :=
  [ambiguous, incompatible, ineligibleReturn, nullIntoNatural, precisionOverflow, tooFewOperands,
    unresolvable, untypedOperands]

/-- The name of a marker. -/
def name : Marker → String
  | ambiguous => "ambiguous"
  | incompatible => "incompatible"
  | ineligibleReturn => "ineligible_return"
  | nullIntoNatural => "null_into_natural"
  | precisionOverflow => "precision_overflow"
  | tooFewOperands => "too_few_operands"
  | unresolvable => "unresolvable"
  | untypedOperands => "untyped_operands"

end Marker

/-- A diagnostic: a message under layers of decoration, the outermost layer first. -/
inductive Diagnostic where
  /-- A bare message. -/
  | text (message : String)
  /-- Context that stands in front of the message of the cause. -/
  | within (context : String) (cause : Diagnostic)
  /-- An SQLSTATE code for the cause, unless the cause has its own. -/
  | coded (state : SqlState) (cause : Diagnostic)
  /-- The zero-based position of the operand or parameter at fault. -/
  | placed (position : Nat) (cause : Diagnostic)
  /-- Additional facts for the reader. -/
  | detailed (detail : String) (cause : Diagnostic)
  /-- Advice to the reader. -/
  | hinted (hint : String) (cause : Diagnostic)
  /-- A marker by which callers recognise the cause. -/
  | marked (marker : Marker) (cause : Diagnostic)
  /-- The cause is a failed assertion. -/
  | internal (cause : Diagnostic)
  /-- Of the cause nothing but its message is visible from outside. -/
  | sealed (cause : Diagnostic)

namespace Diagnostic

/-! ### Construction -/

/-- A diagnostic with a code. Redaction marks in the message are masked. -/
def ofCode (state : SqlState) (message : String) : Diagnostic :=
  .coded state (.text (Text.mask message))

/-- A diagnostic without a code. Redaction marks in the message are masked. -/
def plain (message : String) : Diagnostic :=
  .text (Text.mask message)

/-- A failed assertion. -/
def assertion (message : String) : Diagnostic :=
  .internal (.text (Text.mask message))

/-- The cause with context in front of its message. -/
def inContext (context : String) (cause : Diagnostic) : Diagnostic :=
  .within (Text.mask context) cause

/-- The cause with context and a code; an empty context adds the code alone. -/
def wrap (state : SqlState) (context : String) (cause : Diagnostic) : Diagnostic :=
  if context.isEmpty then .coded state cause else .coded state (inContext context cause)

/-- A failed assertion caused by an error that nobody expected. -/
def unexpected (context : String) (cause : Diagnostic) : Diagnostic :=
  .internal (inContext context (.sealed cause))

/-- The cause with a position; a negative position adds nothing. -/
def atPosition (position : Int) (cause : Diagnostic) : Diagnostic :=
  if position < 0 then cause else .placed position.toNat cause

/-! ### Reading the layers -/

/-- The message with all the context in front of it. -/
def message : Diagnostic → String
  | text m => m
  | within context cause =>
    if context.isEmpty then cause.message else context ++ ": " ++ cause.message
  | coded _ c | placed _ c | detailed _ c | hinted _ c | marked _ c | internal c | .sealed c =>
    c.message

/-- The innermost code that is not sealed off. -/
def ownState? : Diagnostic → Option SqlState
  | text _ | .sealed _ => none
  | coded state cause => cause.ownState?.or (some state)
  | within _ c | placed _ c | detailed _ c | hinted _ c | marked _ c | internal c => c.ownState?

/-- Whether a code has been given and is not sealed off. -/
def hasState (d : Diagnostic) : Bool :=
  d.ownState?.isSome

/-- Whether the outermost layer is a code. -/
def isCoded : Diagnostic → Bool
  | coded _ _ => true
  | _ => false

/-- Whether some layer that is not sealed off is a failed assertion. -/
def isInternal : Diagnostic → Bool
  | text _ | .sealed _ => false
  | internal _ => true
  | within _ c | coded _ c | placed _ c | detailed _ c | hinted _ c | marked _ c => c.isInternal

/-- The code of a diagnostic. Where nobody gave one, a failed assertion has the code for internal
errors. -/
def state (d : Diagnostic) : SqlState :=
  let own := d.ownState?.getD .uncategorized
  if own = .uncategorized ∧ d.isInternal then .internal else own

/-- The outermost position that is not sealed off. -/
def position? : Diagnostic → Option Nat
  | text _ | .sealed _ => none
  | placed position _ => some position
  | within _ c | coded _ c | detailed _ c | hinted _ c | marked _ c | internal c => c.position?

/-- The details, innermost first. -/
def details : Diagnostic → List String
  | text _ | .sealed _ => []
  | detailed detail cause => cause.details ++ [detail]
  | within _ c | coded _ c | placed _ c | hinted _ c | marked _ c | internal c => c.details

/-- The hint that goes with every failed assertion. -/
def internalHint : String :=
  "You have encountered an unexpected error.\n\n" ++
    "Please check the public issue tracker to check whether this problem is\n" ++
    "already tracked. If you cannot find it there, please report the error\n" ++
    "with details by creating a new issue.\n\n" ++
    "If you would rather not post publicly, please contact us directly\n" ++
    "using the support form.\n\n" ++
    "We appreciate your feedback.\n"

/-- The hints, innermost first. -/
def hints : Diagnostic → List String
  | text _ | .sealed _ => []
  | hinted hint cause => cause.hints ++ [hint]
  | internal cause => cause.hints ++ [internalHint]
  | within _ c | coded _ c | placed _ c | detailed _ c | marked _ c => c.hints

/-- Whether a marker is set and not sealed off. -/
def has (m : Marker) : Diagnostic → Bool
  | text _ | .sealed _ => false
  | marked m' cause => m' = m || cause.has m
  | within _ c | coded _ c | placed _ c | detailed _ c | hinted _ c | internal c => c.has m

/-- The markers that are set, in alphabetical order. -/
def markers (d : Diagnostic) : List Marker :=
  Marker.all.filter d.has

end Diagnostic

/-- The flat form of a diagnostic. -/
structure Report where
  state : SqlState
  message : String
  detail : String
  hint : String
  position : Option Nat
  markers : List Marker

namespace Report

/-- What stands between two details or two hints. -/
def separator : String := "\n--\n"

/-- What stands in front of the message of an internal error. -/
def internalPrefix : String := "internal error: "

/-- The report as text, one line per part; positions count from one. -/
def render (r : Report) : String :=
  let part (label value : String) : String := if value.isEmpty then "" else "\n" ++ label ++ value
  "ERROR: " ++ r.message ++ "\nSQLSTATE: " ++ r.state.text ++ part "DETAIL: " r.detail ++
    part "HINT: " r.hint ++ part "POSITION: " ((r.position.map fun p => toString (p + 1)).getD "")

end Report

/-- The flat form of a diagnostic. Empty details and hints are left out, and a hint that occurs
twice is given once. -/
def Diagnostic.report (d : Diagnostic) : Report :=
  let join (parts : List String) : String :=
    Report.separator.intercalate (parts.filter fun p => !p.isEmpty)
  { state := d.state
    message :=
      if d.state = .internal ∧ !d.message.startsWith Report.internalPrefix then
        Report.internalPrefix ++ d.message
      else d.message
    detail := join d.details
    hint := join d.hints.eraseDups
    position := d.position?
    markers := d.markers }

/-- What ends a computation that cannot go on: a broken promise of its caller. -/
inductive Crash where
  /-- A failure that the caller promised could not happen. -/
  | failed (cause : Diagnostic)
  /-- A use of the library that its rules forbid. -/
  | misuse (text : String)
  /-- An access outside a text or a list. -/
  | outOfBounds
  /-- A collection in the place of an element of a set. -/
  | unusableKey

/-- The message of a crash. -/
def Crash.message : Crash → String
  | failed cause => cause.report.message
  | misuse text => text
  | outOfBounds | unusableKey => "runtime error"

/-- Why an operation has no result: an error for its caller, or a crash. -/
inductive Abort where
  | error (cause : Diagnostic)
  | crash (cause : Crash)

/-- The abort with a text in front of its error. -/
def Abort.inContext (text : String) : Abort → Abort
  | error cause => error (.inContext text cause)
  | crash cause => crash cause

end SqlTyping
