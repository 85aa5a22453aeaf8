import VmDescriptor.CommandLine

/-!
The command: reads the files that a call names and writes the descriptor.
-/

namespace VmDescriptor

/-- The text of a file, if it can be read. -/
def readText (path : String) : IO (Option String) := do
  try return some (← IO.FS.readFile path)
  catch _ => return none

/-- Writes a text to a file and says whether that worked. -/
def writeText (path text : String) : IO Bool := do
  try
    IO.FS.writeFile path text
    return true
  catch _ => return false

/-- Writes the error report of a failure. -/
def reportFailure (args : Arguments) (e : CommandError) : IO Unit := do
  if e.isAbrupt then
    IO.eprintln (e.cause?.getD "")
  else
    IO.eprintln ("Error: " ++ e.message args)
    if let some cause := e.cause? then IO.eprintln ("\nCaused by:\n    " ++ cause)

/-- The outcome after its text is written to the output file. -/
def writeOutput (args : Arguments) (outcome : Outcome) : IO Outcome := do
  match args.output, outcome.file with
  | some path, some text =>
    if ← writeText path text then return outcome else return .failed .writing
  | _, _ => return outcome

/-- Carries out a call and yields the exit code. -/
def runCommand (args : Arguments) : IO UInt32 := do
  let config ← args.config.mapM readText
  let fixture ← readText args.fixture
  let outcome ← writeOutput args (.ofFiles args ⟨fixture, config⟩ (.constant default))
  IO.print outcome.stdout
  if let some e := outcome.failure then reportFailure args e
  return outcome.exitCode

end VmDescriptor

/-- The command. -/
def main (words : List String) : IO UInt32 :=
  match VmDescriptor.Arguments.parse? words with
  | some args => VmDescriptor.runCommand args
  | none => do
    IO.eprintln VmDescriptor.Arguments.usage
    return 2
