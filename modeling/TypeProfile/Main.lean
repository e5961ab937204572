import TypeProfile.Run

/-!
# The program

Gathers what a run may see, and prints what it leaves behind.
-/

open TypeProfile

/-- The variables that a run looks at. -/
def watchedVariables : List String :=
  ["NO_COLOR", "CLICOLOR", "CLICOLOR_FORCE", "RUST_LOG", "TYPETRAITS_CONFIG", "XDG_CONFIG_HOME",
    "HOME"]

/-- Why the system could not read a file. -/
def faultOf : IO.Error → FileFault
  | .permissionDenied .. => .forbidden
  | .inappropriateType _ 21 _ => .directory
  | .inappropriateType .. => .throughFile
  | .invalidArgument .. => .nameTooLong
  | _ => .missing

def readText (path : String) : IO (Except FileFault String) := do
  try
    let bytes ← IO.FS.readBinFile path
    pure (textOfBytes bytes)
  catch failure => pure (.error (faultOf failure))

def main (arguments : List String) : IO UInt32 := do
  let known ← watchedVariables.filterMapM fun name => do
    pure ((← IO.getEnv name).map fun value => (name, value))
  let output ← IO.getStdout
  let blind : Environment :=
    { lookup := fun name => known.lookup name, onTerminal := ← output.isTty }
  let paths := match CommandLine.Invocation.ofArguments arguments with
    | .ok invocation => blind.paths invocation
    | .error _ => []
  let files ← paths.mapM fun path => do pure (path, ← readText path)
  let environment := { blind with file := fun path => (files.lookup path).getD (.error .missing) }
  let transcript := environment.run arguments
  output.putStr transcript.output
  (← IO.getStderr).putStr transcript.complaints
  pure transcript.status.toUInt32
