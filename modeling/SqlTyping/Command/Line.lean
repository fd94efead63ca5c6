import SqlTyping.Command

/-!
# Command lines

Which command a line of arguments calls, and with which options and operands. The command is the
first word that is neither a flag nor the value of one. A word that is no command but resembles one
gets a suggestion.
-/

namespace SqlTyping

/-- Why a command line is refused. -/
inductive UsageError where
  | unknownCommand (word path : String) (suggestions : List Command)
  | flag (cause : FlagError)
  | tooFewOperands (least count : Nat)
  deriving DecidableEq

/-- The message about a command line that is refused. -/
def UsageError.message : UsageError → String
  | unknownCommand word path suggestions =>
    "unknown command " ++ Text.quote word ++ " for " ++ Text.quote path ++
      (if suggestions.isEmpty then ""
        else "\n\nDid you mean this?\n" ++
          String.join (suggestions.map fun c => "\t" ++ c.name ++ "\n"))
  | flag cause => cause.message
  | tooFewOperands least count =>
    "requires at least " ++ toString least ++ " arg(s), only received " ++ toString count

namespace CommandLine

/-! ### Suggestions -/

/-- The next row of the table of edit distances: `above` is the row for the text without its first
unit `a`, and `left` the distance for the empty text. -/
def nextRow (a : UInt8) (left : Nat) : List UInt8 → List Nat → List Nat
  | b :: bs, diagonal :: above :: more =>
    let d := if a = b then diagonal else min (min above left) diagonal + 1
    d :: nextRow a d bs (above :: more)
  | _, _ => []

/-- The edit distances between a text and all beginnings of another one. -/
def distancesFrom (t : List UInt8) : List UInt8 → Nat → List Nat → List Nat
  | [], _, row => row
  | a :: rest, i, row => distancesFrom t rest (i + 1) ((i + 1) :: nextRow a (i + 1) t row)

/-- The number of bytes that have to be inserted, removed or replaced to get from one text to the
other. -/
def editDistance (s t : List UInt8) : Nat :=
  ((distancesFrom t s 0 (List.range (t.length + 1))).getLast?).getD 0

/-- Whether a word resembles the name of a command: it starts the name, or is at most two bytes
away from it. Case does not count. -/
def resembles (word : String) (c : Command) : Bool :=
  let w := (Text.lower word).toList
  let n := (Text.lower c.name).toList
  editDistance (Text.bytesOf w) (Text.bytesOf n) ≤ 2 || w.isPrefixOf n

/-- The commands that a word resembles. -/
def suggestions (word : String) : List Command :=
  Command.all.filter fun c => c ≠ .help && resembles word c

/-! ### Finding the command -/

/-- Whether an argument is a flag whose value is the next argument. A flag that is not known counts
as one. -/
def takesNext (flags : List Flag) (argument : String) : Bool :=
  let cs := argument.toList
  if '=' ∈ cs then false
  else
    match cs with
    | '-' :: '-' :: name =>
      !((Flag.find? flags (String.ofList name)).map Flag.isSwitch).getD false
    | ['-', c] => c.utf8Size = 1 && !((Flag.findLetter? flags c).map Flag.isSwitch).getD false
    | _ => false

/-- The words of a command line that are neither flags nor their values. -/
def words (flags : List Flag) : List String → List String
  | [] => []
  | s :: rest =>
    if s = "--" then []
    else if takesNext flags s then
      match rest with
      | _ :: next :: more => words flags (next :: more)
      | _ => []
    else if s.isEmpty ∨ s.toList.head? = some '-' then words flags rest
    else s :: words flags rest
termination_by args => args.length

/-- The arguments without the first occurrence of a word that is not the value of a flag. -/
def removeWord (flags : List Flag) (word : String) : List String → List String
  | [] => []
  | s :: rest =>
    if s = "--" then s :: rest
    else if takesNext flags s then
      match rest with
      | value :: more => s :: value :: removeWord flags word more
      | [] => [s]
    else if s = word then rest
    else s :: removeWord flags word rest

/-- The command that a line calls and the remaining arguments, or the word that is no command. A line
without words calls the tool itself. -/
def find (args : List String) : Except String (Option Command × List String) :=
  match words Flag.shared args with
  | [] => .ok (none, args)
  | word :: _ =>
    match Command.find? word with
    | some c => .ok (some c, removeWord Flag.shared word args)
    | none => .error word

end CommandLine

/-- A call of the tool. -/
structure Invocation where
  /-- The command; `none` for the tool itself. -/
  command : Option Command := none
  options : Options := {}
  operands : List String := []
  failure : Option UsageError := none

namespace Invocation

/-- Why a command does not take the operands, if it does not. -/
def objection? (c : Command) (operands : List String) : Option UsageError :=
  match c, operands with
  | .unify, [] => some (.tooFewOperands 1 0)
  | .resolve, [] => some (.tooFewOperands 1 0)
  | .table, word :: _ => some (.unknownCommand word c.path [])
  | .types, word :: _ => some (.unknownCommand word c.path [])
  | .settings, word :: _ => some (.unknownCommand word c.path [])
  | _, _ => none

/-- Whether the call only asks for help. -/
def asksForHelp (i : Invocation) : Bool :=
  i.options.help || (i.command.map fun c => !c.isRunnable).getD true

/-- Reads a command line. The options that were read in front of a failure are kept. -/
def parse (args : List String) : Invocation :=
  match CommandLine.find args with
  | .error word =>
    { failure := some (.unknownCommand word toolName (CommandLine.suggestions word)) }
  | .ok (command, args) =>
    let flags := (command.map Command.flags).getD (.help :: Flag.shared)
    let r := Flag.read flags args
    let i : Invocation := { command, options := r.options, operands := r.operands }
    match r.failure with
    | some e => { i with failure := some (.flag e) }
    | none =>
      if i.asksForHelp then i
      else { i with failure := command.bind (objection? · r.operands) }

end Invocation

end SqlTyping
