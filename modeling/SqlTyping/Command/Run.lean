import SqlTyping.Catalog.File
import SqlTyping.Command.Failure
import SqlTyping.Command.Listing
import SqlTyping.Command.Query
import SqlTyping.Command.Usage
import SqlTyping.Setting.File
import SqlTyping.Statement.Evaluation
import SqlTyping.Statement.Reader

/-!
# Running commands

A command first builds the settings and the catalog that it works on, from the files and the
overrides of the command line, and then does its work. What it can read is given as data, so that a
run is a function from its input to its output, its notes and its failure.
-/

namespace SqlTyping

/-! ### Input -/

/-- Why a file cannot be read. -/
inductive FileFault where
  | notFound
  | notDirectory
  | noPermission
  | isDirectory
  deriving DecidableEq

/-- What a command can read. -/
structure Input where
  /-- The text of standard input. -/
  stdin : String := ""
  /-- The text of the file at a path. -/
  file : String → Except FileFault String := fun _ => .error .notFound

namespace FileFault

/-- Whether the file can be opened, and fails only when its text is asked for. -/
def isLate : FileFault → Bool
  | isDirectory => true
  | notFound | notDirectory | noPermission => false

/-- What is wrong with a file. -/
def reason : FileFault → String
  | notFound => "no such file or directory"
  | notDirectory => "not a directory"
  | noPermission => "permission denied"
  | isDirectory => "is a directory"

/-- The message about a file that cannot be read. -/
def message (path : String) (e : FileFault) : String :=
  (if e.isLate then "read " else "open ") ++ path ++ ": " ++ e.reason

/-- The error about a file that cannot be read. -/
def diagnostic (path : String) (e : FileFault) : Diagnostic :=
  .text (e.message path)

/-- The error about a YAML file that cannot be read. One that could be opened fails as a YAML
file. -/
def yamlDiagnostic (unreadable : String → Diagnostic) (path : String) (e : FileFault) :
    Diagnostic :=
  if e.isLate then .inContext path (unreadable ("yaml: input error: " ++ e.message path))
  else e.diagnostic path

end FileFault

/-! ### What a command works on -/

/-- The values after the settings file of a call, if it has one. -/
def loadSettings (input : Input) (path : String) : Except Abort Values :=
  if path.isEmpty then .ok Engine.defaults
  else match input.file path with
    | .error e => .error (.error (e.yamlDiagnostic SettingsFile.unreadable path))
    | .ok text =>
      match SettingsFile.load Engine.registry Engine.defaults text with
      | (values, none) => .ok values
      | (_, some e) => .error (e.inContext path)

/-- The catalogs that the catalog files lead to, one after another, and why the next one failed. -/
def loadCatalogs (input : Input) (c : Catalog) : List String → List Catalog × Option Abort
  | [] => ([], none)
  | path :: rest =>
    match input.file path with
    | .error e => ([], some (.error (e.yamlDiagnostic CatalogFile.unreadable path)))
    | .ok text =>
      match c.load text with
      | .error e => ([], some (e.inContext path))
      | .ok c =>
        let (more, failure) := loadCatalogs input c rest
        (c :: more, failure)

/-- A run of a command: what it prints, the notes it leaves, and why it failed, if it did. -/
structure Run where
  output : String := ""
  notes : List Note := []
  failure : Option CommandFailure := none

namespace Run

/-- A run that fails at once. -/
def ofFailure (e : CommandFailure) : Run :=
  { failure := some e }

/-- A run whose result is its output. -/
def ofResult (notes : List Note) (result : Except CommandFailure String) : Run :=
  match result with
  | .ok output => { output, notes }
  | .error e => { notes, failure := some e }

/-- The run with notes in front of its own. -/
def after (notes : List Note) (r : Run) : Run :=
  { r with notes := notes ++ r.notes }

/-- The exit code of a run. -/
def exitCode (r : Run) : Nat :=
  (r.failure.map CommandFailure.exitCode).getD 0

/-- The report on the failure of a run. -/
def report (r : Run) : String :=
  (r.failure.map CommandFailure.report).getD ""

end Run

/-- Prepares what a command works on and passes it on. -/
def withEnvironment (input : Input) (o : Options) (work : Environment → Run) : Run :=
  match loadSettings input o.settingsFile with
  | .error e => .ofFailure (.aborted e)
  | .ok values =>
    match Engine.registry.setAll values o.overrides with
    | .error d => .ofFailure (.misused d)
    | .ok values =>
      let (catalogs, failure) := loadCatalogs input {} o.catalogFiles
      let run : Run := match failure with
        | some e => .ofFailure (.aborted e)
        | none => work ⟨values, catalogs.getLast?.getD {}⟩
      run.after (catalogs.map Catalog.note)

/-! ### Statements -/

/-- The name of the statement in a file: the name of the file without its extension. -/
def statementName (path : String) : String :=
  let file := (path.toList.reverse.takeWhile (· ≠ '/')).reverse
  let extension := file.reverse.takeWhile (· ≠ '.')
  if extension.length < file.length then
    String.ofList (file.take (file.length - extension.length - 1))
  else String.ofList file

/-- The statement in a file. -/
def readStatementFile (input : Input) (path : String) : Except Abort Statement := do
  let text ← (input.file path).mapError fun e => .error (e.diagnostic path)
  Statement.parse (statementName path) text

/-- The statements that a call compiles: those of the files, or the one on standard input. -/
def readStatements (input : Input) (paths : List String) : Except Abort (List Statement) :=
  if paths.isEmpty then (Statement.parse "stdin" input.stdin).map fun s => [s]
  else paths.mapM (readStatementFile input)

/-- Evaluates compiled statements up to the first one that fails. -/
def evaluateAll : List Compiled → List Note × Option Abort
  | [] => ([], none)
  | c :: rest =>
    let notes := evaluationNotes c.name c.evaluands
    match c.evaluate with
    | some a => (notes, some a)
    | none =>
      let (more, failure) := evaluateAll rest
      (notes ++ more, failure)

/-- The table of the expressions of compiled statements. -/
def resultTable (compiled : List Compiled) : Table where
  columns := ["statement", "expr", "site", "result"]
  rows := compiled.flatMap fun c => c.expressions.mapIdx fun i e =>
    [c.name, toString (i + 1), e.site.render, e.decision.render]

/-- Compiles statements and, if asked to, evaluates them. -/
def runCompile (env : Environment) (input : Input) (o : Options) (paths : List String) : Run :=
  match readStatements input paths with
  | .error e => .ofFailure (.aborted e)
  | .ok statements =>
    let notes := compileAllNotes env statements
    match compileAll env statements with
    | .error e => .ofResult notes (.error (.aborted e))
    | .ok compiled =>
      let (more, failure) := if o.evaluate then evaluateAll compiled else ([], none)
      .ofResult (notes ++ more) <| match failure with
        | some a => .error (.aborted a)
        | none => .ok ((resultTable compiled).render o.format)

/-! ### Queries -/

/-- Answers a query about the common type of operands. -/
def runUnify (env : Environment) (o : Options) (words : List String) : Run :=
  match UnifyQuery.read o words with
  | .error d => .ofFailure (.failed d)
  | .ok q => .ofResult (q.notes env) (((q.answer env).map UnifyQuery.render).mapError .aborted)

/-- Answers a query about the routine of a call. -/
def runResolve (env : Environment) (o : Options) (name : String) (words : List String) : Run :=
  match ResolveQuery.read o name words with
  | .error e => .ofFailure e
  | .ok q => .ofResult (q.notes env) (((q.answer env).map q.render).mapError .aborted)

/-! ### Calls of the tool -/

/-- Does the work of a command. -/
def Command.run (env : Environment) (input : Input) (o : Options) (operands : List String) :
    Command → Run
  | unify => runUnify env o operands
  | resolve =>
    match operands with
    | name :: words => runResolve env o name words
    | [] => {}
  | compile => runCompile env input o operands
  | table => { output := Listing.conversions.render o.format }
  | types => { output := Listing.families.render o.format }
  | settings => { output := (Listing.settings Engine.registry env.values).render o.format }
  | help =>
    match operands.head?.bind Command.find? with
    | some c => { output := c.helpText }
    | none => { output := toolHelp }
  | completion => { output := completion.helpText }

namespace Invocation

/-- The verbosity of a call, a number of 32 bits. -/
def verbosity (i : Invocation) : Int :=
  i.options.verbosity.bmod 0x100000000

/-- The files that a call may read. -/
def paths (i : Invocation) : List String :=
  let settings := if i.options.settingsFile.isEmpty then [] else [i.options.settingsFile]
  settings ++ i.options.catalogFiles ++ if i.command = some .compile then i.operands else []

/-- Whether a call reads standard input. -/
def readsStdin (i : Invocation) : Bool :=
  i.command = some .compile && i.operands.isEmpty && i.failure.isNone && !i.asksForHelp

/-- Runs a call. -/
def run (input : Input) (i : Invocation) : Run :=
  match i.failure with
  | some e => .ofFailure (.ofUsage e)
  | none =>
    match i.command with
    | none => { output := toolHelp }
    | some c =>
      if i.asksForHelp then { output := c.helpText }
      else withEnvironment input i.options fun env => c.run env input i.options i.operands

end Invocation

end SqlTyping
