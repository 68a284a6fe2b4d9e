import SqlLowering.CommandLine.Run

/-!
# The command line

Reads the files that the options name, runs, and prints. A text that cannot be decoded is reported
without the place in it. A command line without a meaning is explained on the error stream.
-/

open SqlLowering.CommandLine

/-- The text the system gives for a failure to read a file. -/
def readFailureText : IO.Error → String
  | .noFileOrDirectory .. => "No such file or directory (os error 2)"
  | .permissionDenied .. => "Permission denied (os error 13)"
  | e => e.toString

/-- A file's path with its contents, or with why it cannot be read. -/
def readSource (path : String) : IO (String × Except String String) := do
  try
    return (path, .ok (← IO.FS.readFile path))
  catch e =>
    return (path, .error (readFailureText e))

def main (arguments : List String) : IO UInt32 := do
  match parseOptions arguments with
  | .error e =>
    IO.eprintln ("error: " ++ e.message)
    return 2
  | .ok options =>
    let result := run (fun _ e => e.message) options (← options.files.mapM readSource)
    IO.print result.output
    return result.exitCode.toUInt32
