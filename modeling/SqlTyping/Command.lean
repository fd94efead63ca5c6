import SqlTyping.Command.Flag

/-!
# Commands

The commands of the command line, with what each of them says about itself.
-/

namespace SqlTyping

/-- A command. -/
inductive Command where
  | unify
  | resolve
  | compile
  | table
  | types
  | settings
  | help
  | completion
  deriving DecidableEq

/-- What a command says about itself. -/
structure Description where
  name : String
  /-- The arguments behind the name. -/
  arguments : String := ""
  summary : String
  text : String := ""
  examples : List String := []
  /-- The flags that only this command has. -/
  flags : List Flag := []

/-- The name of the command line tool. -/
def toolName : String := "sqlres"

/-- What the tool says about itself. -/
def toolText : String :=
  "\nInspect how operand types unify, how routine calls resolve against a\n" ++
    "catalog of external routines, and how statements made of such expressions\n" ++
    "compile.\n"

namespace Command

/-- The commands in the order in which they are listed. -/
def all : List Command :=
  [unify, resolve, compile, table, types, settings, help, completion]

/-- What a command says about itself. -/
def description : Command → Description
  | unify =>
    { name := "unify"
      arguments := " TYPE [TYPE...]"
      summary := "compute the common type of operand types"
      text :=
        "\nCompute the type that the given operand types unify into, as the result\n" ++
          "of a COALESCE or VALUE expression would. Each argument is a type name such\n" ++
          "as \"DECIMAL(5,2)\" or \"VARCHAR(10) NOT NULL\", or ? for an untyped\n" ++
          "parameter.\n"
      examples :=
        ["sqlres unify INTEGER \"DECIMAL(5,2)\" ?", "sqlres unify --coalesce \"CHAR(10)\" DATE"]
      flags := [.coalesce] }
  | resolve =>
    { name := "resolve"
      arguments := " NAME [TYPE...]"
      summary := "resolve a routine call against the catalog"
      text :=
        "\nPick the overload of the routine NAME that a call with the given operand\n" ++
          "types binds to. Routines are declared in the files given with --catalog.\n" ++
          "Operand types are given as for the unify command.\n"
      examples :=
        ["sqlres resolve --catalog routines.yaml --expr abs SMALLINT",
         "sqlres resolve --catalog routines.yaml --signature \"(float64)\" abs SMALLINT"]
      flags := [.signature, .returns, .expr, .nonNull] }
  | compile =>
    { name := "compile"
      arguments := " [FILE...]"
      summary := "compile statements of routine calls and COALESCE expressions"
      text :=
        "\nCompile each FILE as one statement, one expression per line:\n\n" ++
          "  call abs(SMALLINT) expr returns BIGINT\n" ++
          "  coalesce(INTEGER, DECIMAL(5,2), ?)\n" ++
          "  value('2024-01-31'::VARCHAR(10), DATE)\n\n" ++
          "The statements of one invocation are compiled concurrently against the same\n" ++
          "snapshot of the routine catalog. Without FILE, one statement is read from\n" ++
          "standard input. With --evaluate, the constant operands are also checked\n" ++
          "as they would be when the statements run.\n"
      flags := [.evaluate] }
  | table =>
    { name := "table"
      summary := "print the conversion rank table"
      text :=
        "\nPrint the family that each pair of type families unifies into. A trailing\n" ++
          "* marks results whose character operands are parsed into the datetime\n" ++
          "result when evaluated; - marks incompatible pairs.\n" }
  | types =>
    { name := "types"
      summary := "list the type families and their host representations" }
  | settings =>
    { name := "settings"
      summary := "list the settings and their effective values"
      text :=
        "\nList the settings with the values in effect after applying --settings and\n--set.\n" }
  | help =>
    { name := "help"
      arguments := " [command]"
      summary := "Help about any command"
      text :=
        "Help provides help for any command in the application.\n" ++
          "Simply type sqlres help [path to command] for full details." }
  | completion =>
    { name := "completion"
      summary := "Generate the autocompletion script for the specified shell"
      text :=
        "Generate the autocompletion script for sqlres for the specified shell.\n" ++
          "See each sub-command's help for details on how to use the generated script.\n" }

/-- The name of a command. -/
def name (c : Command) : String :=
  c.description.name

/-- The command with the given name. -/
def find? (name : String) : Option Command :=
  all.find? fun c => c.name = name

/-- The flags that a command takes. -/
def flags (c : Command) : List Flag :=
  c.description.flags ++ .help :: Flag.shared

/-- The name of a command behind the name of the tool. -/
def path (c : Command) : String :=
  toolName ++ " " ++ c.name

/-- Whether a command has work to do, beyond showing its help. -/
def isRunnable : Command → Bool
  | completion => false
  | unify | resolve | compile | table | types | settings | help => true

end Command

end SqlTyping
