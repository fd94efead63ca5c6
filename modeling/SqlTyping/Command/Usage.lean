import SqlTyping.Command

/-!
# Help

What the tool prints when it is asked for help: the text of a command, how it is called, and its
flags.
-/

namespace SqlTyping

namespace Flag

/-- What the value of a flag is called. -/
def valueName : Flag → String
  | settings | format | signature | returns => "string"
  | set => "key=value"
  | catalog => "strings"
  | verbosity => "int"
  | help | coalesce | expr | nonNull | evaluate => ""

/-- What a flag is for; `owner` is the name of the command. -/
def purpose (owner : String) : Flag → String
  | settings => "YAML file of setting overrides, applied before --set"
  | set =>
    "override a setting, e.g. --set sql.types.decimal_overflow_policy=reject (repeatable)"
  | catalog => "YAML file declaring external routines (repeatable)"
  | format => "output format for tabular results: tsv, csv or table (default \"tsv\")"
  | verbosity => "log verbosity of the resolution trace written to stderr"
  | help => "help for " ++ owner
  | coalesce =>
    "apply the operand rules of COALESCE: at least two operands, one of them typed"
  | signature => "explicit host signature selecting the overload, e.g. \"(int32, *bool)\""
  | returns => "type family the return value must widen to; implies --expr"
  | expr => "the call appears in an expression, so a procedure cannot serve it"
  | nonNull => "require a return representation that cannot hold NULL"
  | evaluate =>
    "check constant operands: bridged datetime strings, DECIMAL widths and NULLs for natural parameters"

/-- The left column of the list of flags. -/
def usageLabel (f : Flag) : String :=
  (match f.letter? with
    | some c => "  -" ++ c.toString ++ ", --"
    | none => "      --") ++ f.name ++ (if f.valueName.isEmpty then "" else " " ++ f.valueName)

/-- A list of flags by name, one on a line. -/
def usages (owner : String) (flags : List Flag) : String :=
  let sorted := flags.mergeSort fun a b => decide (a.name ≤ b.name)
  let width := (sorted.map fun f => f.usageLabel.length).foldl max 0
  "\n".intercalate (sorted.map fun f =>
    let gap := List.replicate (width - f.usageLabel.length + 3) ' '
    f.usageLabel ++ String.ofList gap ++ f.purpose owner)

end Flag

/-- A text without the white space at its end. -/
def trimEnd (s : String) : String :=
  String.ofList (s.toList.reverse.dropWhile Text.isSpace).reverse

/-- A text filled up with spaces. -/
def padEnd (width : Nat) (s : String) : String :=
  s ++ String.ofList (List.replicate (width - s.length) ' ')

/-- The list of commands. -/
def commandList : String :=
  "\n".intercalate (Command.all.map fun c =>
    "  " ++ padEnd 11 c.name ++ " " ++ c.description.summary)

/-- How the tool is called. -/
def toolUsage : String :=
  "Usage:\n  " ++ toolName ++ " [command]\n\nAvailable Commands:\n" ++ commandList ++
    "\n\nFlags:\n" ++ Flag.usages toolName (.help :: Flag.shared) ++
    "\n\nUse \"" ++ toolName ++ " [command] --help\" for more information about a command.\n"

/-- The help of the tool. -/
def toolHelp : String :=
  trimEnd toolText ++ "\n\n" ++ toolUsage

namespace Command

/-- How a command is called. -/
def usage (c : Command) : String :=
  let d := c.description
  "Usage:" ++ (if c.isRunnable then "\n  " ++ c.path ++ d.arguments ++ " [flags]" else "") ++
    (if d.examples.isEmpty then ""
      else "\n\nExamples:\n" ++ "\n".intercalate (d.examples.map ("  " ++ ·))) ++
    "\n\nFlags:\n" ++ Flag.usages c.name (.help :: d.flags) ++
    "\n\nGlobal Flags:\n" ++ Flag.usages c.name Flag.shared ++ "\n"

/-- The help of a command. -/
def helpText (c : Command) : String :=
  let d := c.description
  trimEnd (if d.text.isEmpty then d.summary else d.text) ++ "\n\n" ++ c.usage

end Command

end SqlTyping
