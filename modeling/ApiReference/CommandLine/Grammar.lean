/-!
What can be said on the command line: at each level some switches, some options with a value, and
the commands that lead to a level below.
-/

namespace ApiReference.CommandLine

/-- Something that is said without a value. -/
inductive Switch where
  | help
  | version
  | verbose
  deriving DecidableEq, Inhabited

/-- The word for a switch, which is written after two dashes. -/
def Switch.word : Switch → String
  | .help => "help"
  | .version => "version"
  | .verbose => "verbose"

def Switch.letter : Switch → Char
  | .help => 'h'
  | .version => 'V'
  | .verbose => 'v'

inductive Choice where
  | logFormat
  | url
  | input
  | out
  | snapshot
  deriving DecidableEq, Inhabited

def Choice.word : Choice → String
  | .logFormat => "log-format"
  | .url => "url"
  | .input => "input"
  | .out => "out"
  | .snapshot => "snapshot"

def Choice.letter? : Choice → Option Char
  | .out => some 'o'
  | _ => none

inductive LogFormat where
  | text
  | json
  deriving DecidableEq, Inhabited

def LogFormat.ofName? : String → Option LogFormat
  | "text" => some .text
  | "json" => some .json
  | _ => none

/-- Whether a choice can have a value: a log format must be known, and a path must not be
empty. -/
def Choice.accepts (c : Choice) (value : String) : Bool :=
  match c with
  | .logFormat => (LogFormat.ofName? value).isSome
  | .url => true
  | .input | .out | .snapshot => !value.isEmpty

inductive Level where
  | program
  | generate
  | regenerate
  | settings
  | settingsInit
  | settingsShow
  deriving DecidableEq, Inhabited

namespace Level

def switches : Level → List Switch
  | .program => [.help, .version, .verbose]
  | _ => [.help, .verbose]

def choices : Level → List Choice
  | .generate => [.logFormat, .url, .input, .out]
  | .regenerate => [.logFormat, .snapshot, .out]
  | _ => [.logFormat]

/-- The commands of a level, and the levels that they lead to. -/
def commands : Level → List (String × Level)
  | .program => [("generate", .generate), ("regen", .regenerate), ("config", .settings)]
  | .settings => [("init", .settingsInit), ("show", .settingsShow)]
  | _ => []

/-- The command that asks for help. Levels that have commands have this one too. -/
def helpCommand : String := "help"

end Level

inductive Item where
  | switch (s : Switch)
  | choice (c : Choice)
  deriving DecidableEq, Inhabited

def Level.ofWord? (level : Level) (word : String) : Option Item :=
  match level.switches.find? (·.word == word) with
  | some s => some (.switch s)
  | none => (level.choices.find? (·.word == word)).map .choice

def Level.ofLetter? (level : Level) (letter : Char) : Option Item :=
  match level.switches.find? (·.letter == letter) with
  | some s => some (.switch s)
  | none => (level.choices.find? (·.letter? == some letter)).map .choice

inductive Argument where
  /-- Two dashes, after which nothing is a switch or a choice. -/
  | dashes
  /-- A word after two dashes, and the value after an equals sign. -/
  | long (word : String) (value : Option String)
  /-- Letters after one dash. -/
  | short (letters : List Char)
  | plain (text : String)
  deriving DecidableEq, Inhabited

/-- A text up to its first equals sign, and what comes after that. -/
def atEquals (cs : List Char) : String × Option String :=
  (String.ofList (cs.takeWhile (· != '=')),
    match cs.dropWhile (· != '=') with
    | [] => none
    | _ :: value => some (String.ofList value))

def Argument.ofText (text : String) : Argument :=
  match text.toList with
  | ['-', '-'] => .dashes
  | '-' :: '-' :: cs => .long (atEquals cs).1 (atEquals cs).2
  | '-' :: c :: cs => .short (c :: cs)
  | _ => .plain text

end ApiReference.CommandLine
