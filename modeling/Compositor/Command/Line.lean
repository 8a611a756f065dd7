import Compositor.Text.Numeral

/-!
# Command lines

The words of a command line and what they ask for. The first word names a command; options follow
it, each given at most once, with the value as the next word or after an equals sign. A request
for help counts as soon as it is met, and what comes after it is not looked at.
-/

namespace Compositor

/-- The profiles that can be asked for. -/
inductive ProfileName where
  | full
  | minimal
deriving DecidableEq, Repr

/-- The arguments of the command that runs frames. -/
structure FramesArguments where
  config : Option String
  width : Nat
  height : Nat
  frames : Nat
  profile : ProfileName
deriving DecidableEq, Repr

inductive HelpTopic where
  | program
  | probe
  | frames
  | help
deriving DecidableEq, Repr

/-- What a command line asks for. -/
inductive Invocation where
  /-- To tell the capabilities of a profile. -/
  | probe (profile : ProfileName)
  | frames (arguments : FramesArguments)
  /-- To tell about the program or a command, in short or at length. -/
  | help (topic : HelpTopic) (long : Bool)
  | version
  | misuse
deriving DecidableEq, Repr

namespace CommandLine

/-- An option of a command whose arguments are of type `α`. -/
structure OptionRule (α : Type) where
  /-- Its name, without the dashes. -/
  name : String
  /-- The arguments with a value of the option, if that is one. -/
  put? : String → α → Option α

/-- The number of 32 bits that a value stands for. A sign may precede the digits, a minus sign only
before zero. -/
def number? (value : String) : Option Nat :=
  match value.toList with
  | '-' :: digits => (Text.natural? digits).filter (· = 0)
  | digits => Text.word? digits

/-- The profile that a value stands for. -/
def profile? (value : String) : Option ProfileName :=
  if value = "full" then some .full else if value = "minimal" then some .minimal else none

/-- The file that a value names; the empty value names none. -/
def path? (value : String) : Option String := if value = "" then none else some value

/-- The options of the command that tells capabilities. -/
def probeRules : List (OptionRule ProfileName) := [⟨"profile", fun v _ => profile? v⟩]

/-- The options of the command that runs frames. -/
def framesRules : List (OptionRule FramesArguments) :=
  [⟨"config", fun v a => (path? v).map fun p => { a with config := some p }⟩,
   ⟨"width", fun v a => (number? v).map fun n => { a with width := n }⟩,
   ⟨"height", fun v a => (number? v).map fun n => { a with height := n }⟩,
   ⟨"frames", fun v a => (number? v).map fun n => { a with frames := n }⟩,
   ⟨"profile", fun v a => (profile? v).map fun p => { a with profile := p }⟩]

/-- The arguments where no option is given. -/
def standardFrames : FramesArguments := ⟨none, 640, 480, 1, .full⟩

/-- A word that is no value. -/
inductive Word where
  /-- Two dashes and a name, with a value after an equals sign if there is one. -/
  | long (name : String) (value : Option String)
  /-- One dash and letters, the first of which counts. -/
  | short (letter : Char)
  /-- Two dashes alone, which end the options. -/
  | endOfOptions
  /-- Anything else, a single dash included. -/
  | plain
deriving DecidableEq, Repr

/-- How a word reads where an option may stand. -/
def Word.of (word : String) : Word :=
  match word.toList with
  | ['-', '-'] => .endOfOptions
  | '-' :: '-' :: rest =>
    let name := String.ofList (rest.takeWhile (· ≠ '='))
    match rest.dropWhile (· ≠ '=') with
    | [] => .long name none
    | _ :: value => .long name (some (String.ofList value))
  | '-' :: letter :: _ => .short letter
  | _ => .plain

/-- What options come to. -/
inductive Parsed (α : Type) where
  | arguments (a : α)
  | help (long : Bool)
  | misuse
deriving DecidableEq, Repr

/-- Gives an option its value, unless it has one already. -/
def give {α : Type} (rules : List (OptionRule α)) (given : List String) (name value : String)
    (a : α) : Option α :=
  if name ∈ given then none
  else (rules.find? fun r => r.name = name).bind fun r => r.put? value a

/-- Reads the options of a command into its arguments; `given` are those met so far. -/
def readOptions {α : Type} (rules : List (OptionRule α)) (given : List String) (a : α) :
    List String → Parsed α
  | [] => .arguments a
  | word :: rest =>
    match Word.of word with
    | .plain => .misuse
    | .endOfOptions => if rest = [] then .arguments a else .misuse
    | .short letter => if letter = 'h' then .help false else .misuse
    | .long name (some value) =>
      match give rules given name value a with
      | none => .misuse
      | some a => readOptions rules (name :: given) a rest
    | .long name none =>
      if name = "help" then .help true
      else
        match rest with
        | [] => .misuse
        | value :: rest =>
          match Word.of value, give rules given name value a with
          | .plain, some a => readOptions rules (name :: given) a rest
          | _, _ => .misuse

/-- What is asked for by the options of a command. -/
def Parsed.invocation {α : Type} (topic : HelpTopic) (run : α → Invocation) : Parsed α → Invocation
  | arguments a => run a
  | help long => .help topic long
  | misuse => .misuse

/-- What the words after the one for help ask for. -/
def readHelp : List String → Invocation
  | [] => .help .program true
  | ["probe"] => .help .probe true
  | ["frames"] => .help .frames true
  | ["help"] => .help .help true
  | _ => .misuse

/-- What the words of a command line ask for. -/
def read : List String → Invocation
  | [] => .misuse
  | "probe" :: rest => (readOptions probeRules [] .full rest).invocation .probe .probe
  | "frames" :: rest => (readOptions framesRules [] standardFrames rest).invocation .frames .frames
  | "help" :: rest => readHelp rest
  | word :: _ =>
    match Word.of word with
    | .long "help" none => .help .program true
    | .long "version" none => .version
    | .short 'h' => .help .program false
    | .short 'V' => .version
    | _ => .misuse

end CommandLine

end Compositor
