import ApiReference.CommandLine.Grammar
import ApiReference.Files.Path

/-!
Requests: what arguments ask for, or why they ask for nothing. Arguments are read level by level.
What is wrong below a level is reported before what is wrong at that level.
-/

namespace ApiReference.CommandLine

inductive Command where
  | generate (url : Option String) (input out : Option Path)
  | regenerate (snapshot : Path) (out : Option Path)
  | initSettings
  | showSettings
  deriving DecidableEq, Inhabited

structure Request where
  command : Command
  /-- How often more detail was asked for. -/
  verbosity : Nat
  logFormat : LogFormat
  deriving DecidableEq, Inhabited

/-- Why arguments are no request. -/
inductive UsageFault where
  | helpWanted
  | versionWanted
  | nothingSaid
  | noCommand
  | unknownCommand
  | unknownArgument
  | needlessValue
  | missingValue
  | unacceptableValue
  /-- Two things were said that do not go together. -/
  | conflict
  | missingChoice
  deriving DecidableEq, Inhabited

def usage : String :=
  "\n".intercalate ["usage: docbind [--log-format text|json] [-v] COMMAND", "", "commands:",
    "  generate [--url URL | --input FILE] [--out DIRECTORY]",
    "  regen --snapshot DIRECTORY [--out DIRECTORY]", "  config init", "  config show"]

def UsageFault.message : UsageFault → String
  | .helpWanted | .nothingSaid => usage
  | .versionWanted => "docbind 0.1.0"
  | .noCommand => "error: a command is missing"
  | .unknownCommand => "error: there is no such command"
  | .unknownArgument => "error: unexpected argument"
  | .needlessValue => "error: this takes no value"
  | .missingValue => "error: a value is missing"
  | .unacceptableValue => "error: invalid value"
  | .conflict => "error: arguments that cannot be used together"
  | .missingChoice => "error: a required argument is missing"

/-- The most that is counted of a switch. -/
def countLimit : Nat := 255

/-- What was said so far at a level. -/
structure Said where
  verbosity : Nat := 0
  choices : List (Choice × String) := []
  /-- A choice that is not settled yet, with its value as soon as there is one. -/
  pending : Option (Choice × Option String) := none
  deriving DecidableEq, Inhabited

namespace Said

def value? (s : Said) (c : Choice) : Option String := s.choices.lookup c

def isWaiting (s : Said) : Bool :=
  match s.pending with
  | some (_, none) => true
  | _ => false

/-- Makes a choice, which can be made once. -/
def choose (s : Said) (c : Choice) (value : String) : Except UsageFault Said :=
  if (s.value? c).isSome then .error .conflict
  else if c.accepts value then .ok { s with choices := s.choices ++ [(c, value)] }
  else .error .unacceptableValue

def settle (s : Said) : Except UsageFault Said :=
  match s.pending with
  | none => .ok s
  | some (_, none) => .error .missingValue
  | some (c, some value) => { s with pending := none }.choose c value

def turnOn (s : Said) (switch : Switch) : Except UsageFault Said := do
  let s ← s.settle
  match switch with
  | .help => throw .helpWanted
  | .version => throw .versionWanted
  | .verbose => return { s with verbosity := min (s.verbosity + 1) countLimit }

def begin (s : Said) (c : Choice) (value : Option String) : Except UsageFault Said := do
  let s ← s.settle
  match value with
  | some v => s.choose c v
  | none => return { s with pending := some (c, none) }

def fill (s : Said) (text : String) : Said :=
  { s with pending := s.pending.map fun (c, _) => (c, some text) }

end Said

namespace Level

def sayWord (level : Level) (s : Said) (word : String) (value : Option String) :
    Except UsageFault Said :=
  match level.ofWord? word, value with
  | some (.choice c), value => s.begin c value
  | some (.switch switch), none => s.turnOn switch
  | some (.switch _), some _ => .error .needlessValue
  | none, _ => .error .unknownArgument

/-- The value that follows the letter of a choice. -/
def attached : List Char → Option String
  | [] => none
  | '=' :: cs => some (String.ofList cs)
  | cs => some (String.ofList cs)

/-- Says letters at a level. What follows the letter of a choice is its value. -/
def sayLetters (level : Level) (s : Said) : List Char → Except UsageFault Said
  | [] => .ok s
  | c :: cs =>
    match level.ofLetter? c with
    | some (.switch switch) => do level.sayLetters (← s.turnOn switch) cs
    | some (.choice choice) => s.begin choice (attached cs)
    | none => .error .unknownArgument

def stray (level : Level) : UsageFault :=
  if level.commands.isEmpty then .unknownArgument else .unknownCommand

def isCommand (level : Level) (text : String) : Bool :=
  !level.commands.isEmpty && (text == helpCommand || (level.commands.lookup text).isSome)

/-- Reads what comes after the command that asks for help: the commands to help with. -/
def help (level : Level) : List String → UsageFault
  | [] => .helpWanted
  | [text] => if level.isCommand text then .helpWanted else .unknownCommand
  | text :: rest =>
    match level.commands.lookup text with
    | some below => below.help rest
    | none => .unknownCommand

def command (level : Level) (s : Said) : Except UsageFault Command :=
  let path? (c : Choice) := (s.value? c).map Path.ofText
  match level with
  | .program | .settings =>
    .error (if s.verbosity == 0 && s.choices.isEmpty then .nothingSaid else .noCommand)
  | .generate =>
    if (s.value? .url).isSome && (s.value? .input).isSome then .error .conflict
    else .ok (.generate (s.value? .url) (path? .input) (path? .out))
  | .regenerate =>
    match path? .snapshot with
    | some snapshot => .ok (.regenerate snapshot (path? .out))
    | none => .error .missingChoice
  | .settingsInit => .ok .initSettings
  | .settingsShow => .ok .showSettings

end Level

structure Reading where
  command : Command
  verbosity : Nat
  logFormat : Option LogFormat
  deriving DecidableEq, Inhabited

/-- What was said at a level together with what was read below it, which prevails. -/
def Reading.within (r : Reading) (s : Said) : Reading :=
  { r with
    verbosity := if r.verbosity == 0 then s.verbosity else r.verbosity
    logFormat := r.logFormat.or ((s.value? .logFormat).bind LogFormat.ofName?) }

/-- What was said at a level where no command leads further. -/
def Level.conclude (level : Level) (s : Said) : Except UsageFault Reading := do
  let s ← s.settle
  return Reading.within ⟨← level.command s, 0, none⟩ s

def Level.read (level : Level) (s : Said) : List String → Except UsageFault Reading
  | [] => level.conclude s
  | text :: rest =>
    if !s.isWaiting && level.isCommand text then
      match level.commands.lookup text with
      | some below => do
        let r ← below.read {} rest
        return r.within (← s.settle)
      | none => .error (level.help rest)
    else match Argument.ofText text with
      | .dashes =>
        match rest with
        | [] => level.conclude s
        | next :: _ => .error (if level.isCommand next then .unknownArgument else level.stray)
      | .long word value => do level.read (← level.sayWord s word value) rest
      | .short letters => do level.read (← level.sayLetters s letters) rest
      | .plain text => if s.isWaiting then level.read (s.fill text) rest else .error level.stray

def Request.ofArguments (arguments : List String) : Except UsageFault Request := do
  let r ← Level.program.read {} arguments
  return ⟨r.command, r.verbosity, r.logFormat.getD .text⟩

end ApiReference.CommandLine
