import Compositor.Command.Line

/-!
# Help

What the program tells about itself and its commands. In short, an option and what is said about it
share a line; at length, what is said stands indented below.
-/

namespace Compositor

def programName : String := "glcompose"

def programVersion : String := "0.1.0"

namespace Help

/-- A line filled up to a width. -/
def pad (width : Nat) (s : String) : String :=
  s ++ String.ofList (List.replicate (width - s.length) ' ')

/-- Two columns, the second two blanks after the longest entry of the first. -/
def columns (rows : List (String × String)) : List String :=
  let width := (rows.map fun r => r.1.length).foldl max 0
  rows.map fun (left, right) => "  " ++ pad (width + 2) left ++ right

/-- What is said about an option. -/
structure OptionHelp where
  label : String
  /-- What it is for; empty where nothing is said. -/
  about : String
  /-- The value it has when it is not given; empty where there is none. -/
  standard : String
  /-- The values it may have, with what they mean; none where any value will do. -/
  values : List (String × String)

/-- The indentation of what is said about an option at length. -/
def indent : String := "          "

/-- A remark in brackets; none about nothing. -/
def remark (kind content : String) : List String :=
  if content = "" then [] else ["[" ++ kind ++ ": " ++ content ++ "]"]

/-- What is said about an option in short. -/
def OptionHelp.short (o : OptionHelp) : String :=
  " ".intercalate
    ((if o.about = "" then [] else [o.about]) ++ remark "default" o.standard ++
      remark "possible values" (", ".intercalate (o.values.map (·.1))))

/-- The values of an option and their meanings, a line each. -/
def valueLines (values : List (String × String)) : List String :=
  let width := (values.map fun v => v.1.length).foldl max 0
  values.map fun (name, meaning) => "- " ++ pad (width + 2) (name ++ ":") ++ meaning

/-- An option and what is said about it at length: what it is for, its values and its default, with
an empty line between them. -/
def OptionHelp.long (o : OptionHelp) : List String :=
  let about := if o.about = "" then [] else [[o.about]]
  let values := if o.values.isEmpty then [] else ["Possible values:" :: valueLines o.values]
  let standard := (remark "default" o.standard).map ([·])
  ("  " ++ o.label) :: (([""].intercalate (about ++ values ++ standard)).map (indent ++ ·))

def profile : OptionHelp where
  label := "    --profile <PROFILE>"
  about := ""
  standard := "full"
  values :=
    [("full", "Extended profile with multisampling and every extension"),
     ("minimal", "No extensions, single-sampled only")]

/-- The options of the command that runs frames. -/
def frames : List OptionHelp :=
  [⟨"    --config <CONFIG>", "Surface configuration JSON. Defaults apply when omitted", "", []⟩,
   ⟨"    --width <WIDTH>", "", "640", []⟩,
   ⟨"    --height <HEIGHT>", "", "480", []⟩,
   ⟨"    --frames <FRAMES>", "Number of frames to run", "1", []⟩,
   profile]

/-- The commands and what they do. -/
def commands : List (String × String) :=
  [("probe", "Print the capabilities of a headless driver profile"),
   ("frames", "Run frames on a headless surface and print compositing statistics"),
   ("help", "Print this message or the help of the given subcommand(s)")]

def about (command : String) : String := (commands.lookup command).getD ""

/-- The help of a command with options. -/
def command (name : String) (options : List OptionHelp) (long : Bool) : List String :=
  let opening :=
    [about name, "", "Usage: " ++ programName ++ " " ++ name ++ " [OPTIONS]", "", "Options:"]
  if long then
    opening ++ options.flatMap (fun o => o.long ++ [""]) ++
      ["  -h, --help", indent ++ "Print help (see a summary with '-h')"]
  else
    opening ++
      columns (options.map (fun o => (o.label, o.short)) ++
        [("-h, --help", "Print help (see more with '--help')")])

def program : List String :=
  ["Usage: " ++ programName ++ " <COMMAND>", "", "Commands:"] ++ columns commands ++
    ["", "Options:"] ++ columns [("-h, --help", "Print help"), ("-V, --version", "Print version")]

/-- The help of the command for help. -/
def help : List String :=
  [about "help", "", "Usage: " ++ programName ++ " help [COMMAND]...", "", "Arguments:"] ++
    columns [("[COMMAND]...", "Print help for the subcommand(s)")]

end Help

def HelpTopic.text (topic : HelpTopic) (long : Bool) : String :=
  let lines :=
    match topic with
    | program => Help.program
    | probe => Help.command "probe" [Help.profile] long
    | frames => Help.command "frames" Help.frames long
    | help => Help.help
  "".intercalate (lines.map (· ++ "\n"))

end Compositor
