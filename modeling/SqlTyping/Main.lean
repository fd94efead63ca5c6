import SqlTyping.Command.Run

/-!
# The command line

Reads the arguments, the files and standard input, runs the command, and prints its output, its log
and the report on its failure.
-/

namespace SqlTyping

/-- The fault behind an error of the operating system. -/
def FileFault.ofError : IO.Error → FileFault
  | .permissionDenied .. => .noPermission
  | .inappropriateType .. => .isDirectory
  | _ => .notFound

/-- Reads a file. -/
def readPath (path : String) : IO (String × Except FileFault String) := do
  try
    return (path, .ok (← IO.FS.readFile path))
  catch e => return (path, .error (FileFault.ofError e))

/-- Reads what a call can read. -/
def Invocation.readInput (i : Invocation) : IO Input := do
  let files ← i.paths.mapM readPath
  let stdin ← if i.readsStdin then (← IO.getStdin).readToEnd else pure ""
  return { stdin, file := fun path => (files.lookup path).getD (.error .notFound) }

end SqlTyping

/-- Runs the tool with the given arguments. -/
def main (args : List String) : IO UInt32 := do
  let call := SqlTyping.Invocation.parse args
  let run := call.run (← call.readInput)
  for line in SqlTyping.Note.lines call.verbosity run.notes do
    IO.eprintln line
  IO.print run.output
  if run.failure.isSome then IO.eprintln run.report
  return UInt32.ofNat run.exitCode
