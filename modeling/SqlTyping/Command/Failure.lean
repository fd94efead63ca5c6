import SqlTyping.Command.Line
import SqlTyping.Diagnostic

/-!
# Failures of commands

A command that fails reports why, and the exit code tells what kind of failure it was: a faulty
command line, an input that was rejected, or something else.
-/

namespace SqlTyping

/-- Why a command failed. -/
inductive CommandFailure where
  /-- The command line is at fault. -/
  | misused (cause : Diagnostic)
  /-- The work could not be done. -/
  | aborted (cause : Abort)

/-- The report on a failure. An error with a state of its own is reported in full. -/
def Diagnostic.commandReport (d : Diagnostic) : String :=
  if d.report.state = .uncategorized then "ERROR: " ++ d.message else d.report.render

/-- The exit code of a failure of the work: 125 if the input was rejected. -/
def Diagnostic.exitCode (d : Diagnostic) : Nat :=
  if d.report.state ∈ [.uncategorized, .internal] then 1 else 125

namespace CommandFailure

/-- A failure of the work. -/
def failed (d : Diagnostic) : CommandFailure :=
  aborted (.error d)

/-- The failure of a command line that is refused. Flags are a matter of how the tool is used; a
command that does not exist, and operands that a command does not take, are not. -/
def ofUsage (e : UsageError) : CommandFailure :=
  match e with
  | .flag _ => misused (.text e.message)
  | .unknownCommand _ _ _ | .tooFewOperands _ _ => failed (.text e.message)

/-- The error behind a failure; a crash has none. -/
def diagnostic? : CommandFailure → Option Diagnostic
  | misused d => some d
  | aborted (.error d) => some d
  | aborted (.crash _) => none

/-- The exit code of a failure. -/
def exitCode : CommandFailure → Nat
  | misused _ => 4
  | aborted (.error d) => d.exitCode
  | aborted (.crash _) => 2

/-- The report on a failure. -/
def report : CommandFailure → String
  | misused d => d.commandReport
  | aborted (.error d) => d.commandReport
  | aborted (.crash c) => c.message

end CommandFailure

end SqlTyping
