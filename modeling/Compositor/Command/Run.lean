import Compositor.Command.Frames
import Compositor.Command.Help

/-!
# Running a command

What an invocation prints. Reading files is left to the caller, who hands over a function for it.
-/

namespace Compositor

inductive Outcome where
  /-- Well, with a text to print. -/
  | success (output : String)
  /-- With a text that tells what went wrong. -/
  | failure (text : String)
  /-- As the command line made no sense. -/
  | misuse
deriving DecidableEq, Repr

namespace Outcome

def code : Outcome → UInt8
  | success _ => 0
  | failure _ => 1
  | misuse => 2

/-- A JSON value printed over several lines, its members in the order of their names. -/
def ofJson (v : Json.Value) : Outcome := success (String.ofList (v.sortMembers.pretty 0) ++ "\n")

/-- A failure for which there is nothing more to say. -/
def ofMessage (message : String) : Outcome := failure ("Error: " ++ message)

/-- A failure of a step of the command, and its cause, whose lines are indented. -/
def ofCause (step cause : String) : Outcome :=
  let lines := (Text.splitAt (· == '\n') cause.toList).map fun l => "    " ++ String.ofList l
  failure ("Error: " ++ step ++ "\n\nCaused by:\n" ++ "\n".intercalate lines)

end Outcome

def ProfileName.profile : ProfileName → Profile
  | full => .full
  | minimal => .minimal

namespace FramesArguments

/-- The settings that the arguments name, or how the command ends without them. -/
def settings (a : FramesArguments) (fileText : String → Except String String) :
    Except Outcome Settings :=
  match a.config with
  | none => .ok .standard
  | some path =>
    match fileText path with
    | .error cause => .error (.ofCause ("read config '" ++ path ++ "'") cause)
    | .ok text =>
      match Settings.ofText? text with
      | .error failure => .error (.ofCause "parse surface config" failure.message)
      | .ok settings => .ok settings

/-- Runs the frames and reports on them. -/
def run (a : FramesArguments) (fileText : String → Except String String) : Outcome :=
  match a.settings fileText with
  | .error outcome => outcome
  | .ok settings =>
    match FramesReport.run a.profile.profile settings ⟨a.width, a.height⟩ a.frames with
    | .error failure => .ofMessage failure.message
    | .ok report => .ofJson report.toJson

end FramesArguments

def Invocation.run (fileText : String → Except String String) : Invocation → Outcome
  | probe profile => .ofJson profile.profile.capabilities.toJson
  | frames arguments => arguments.run fileText
  | help topic long => .success (topic.text long)
  | version => .success (programName ++ " " ++ programVersion ++ "\n")
  | misuse => .misuse

end Compositor
