import Compositor.Command.Run

/-!
# The command line program

Reads the arguments and the configuration file, and prints what the command gives.
-/

namespace Compositor

/-- How the system words the failure to read a file. -/
def ioMessage : IO.Error → String
  | .noFileOrDirectory _ code _ => "No such file or directory (os error " ++ toString code ++ ")"
  | .permissionDenied _ code _ => "Permission denied (os error " ++ toString code ++ ")"
  | .inappropriateType _ code _ => "Is a directory (os error " ++ toString code ++ ")"
  | e => toString e

/-- The text of a file, or why it cannot be read. -/
def readText (path : String) : IO (Except String String) := do
  try
    return .ok (← IO.FS.readFile path)
  catch e =>
    return .error (ioMessage e)

/-- The file that an invocation reads. -/
def Invocation.file? : Invocation → Option String
  | frames arguments => arguments.config
  | _ => none

end Compositor

open Compositor in
def main (arguments : List String) : IO UInt32 := do
  let invocation := CommandLine.read arguments
  let text ←
    match invocation.file? with
    | some path => readText path
    | none => pure (.error "")
  let outcome := invocation.run fun _ => text
  match outcome with
  | .success output => IO.print output
  | .failure text => IO.eprintln text
  | .misuse => IO.eprintln ("Usage: " ++ programName ++ " <COMMAND>")
  return outcome.code.toUInt32
