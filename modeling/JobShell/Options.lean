import JobShell.Log
import JobShell.Text.Similarity

/-!
# Command-line options

What the arguments of the program ask for, and what it answers when they ask for nothing it can
do. Arguments are taken from left to right, and the first that is wrong decides the answer. The
value of an option that stands in an argument of its own is not looked at before the next option
is known, or the arguments end; so an unknown argument behind it is noticed first.
-/

namespace JobShell

/-- The settings that the command line can give. -/
structure Options where
  /-- Whether launches are announced. -/
  announce : Bool
  /-- The level of detail of the log. -/
  level : Option Log.Level
  deriving DecidableEq, Repr

namespace Options

/-- What a command line asks for. -/
inductive Request where
  | run (options : Options)
  | help
  | version
  deriving DecidableEq, Repr

/-- The options that can be given. -/
inductive Flag where
  | debug
  | logLevel
  | help
  | version
  deriving DecidableEq, Repr

namespace Flag

/-- All options. -/
def all : List Flag := [debug, logLevel, help, version]

/-- The long name of an option, without its dashes. -/
def long : Flag → String
  | debug => "debug"
  | logLevel => "log-level"
  | help => "help"
  | version => "version"

/-- The letter that stands for an option. -/
def short? : Flag → Option Char
  | debug => some 'd'
  | logLevel => none
  | help => some 'h'
  | version => some 'V'

/-- An option as the usage text shows it. -/
def usage (f : Flag) : String :=
  "--" ++ f.long ++ (if f = logLevel then " <LEVEL>" else "")

/-- The option with a long name. -/
def ofLong? (name : String) : Option Flag := all.find? (·.long = name)

/-- The option with a letter. -/
def ofShort? (c : Char) : Option Flag := all.find? (·.short? = some c)

end Flag

/-- What is wrong with a command line. -/
inductive Fault where
  /-- An option that may stand once stands twice. -/
  | repeated (flag : Flag)
  /-- The value of an option is missing or empty. -/
  | missingValue (flag : Flag)
  /-- The value of an option is not one of the known words. -/
  | invalidValue (flag : Flag) (value : String)
  /-- An option that takes no value has one; `used` are the options before it. -/
  | unneededValue (flag : Flag) (value : String) (used : List Flag)
  /-- There is no such argument; `used` are the options that its usage shows. -/
  | unknown (argument : String) (similar : Option Flag) (used : List Flag)
  deriving DecidableEq, Repr

namespace Fault

/-- The first line of the answer to a wrong command line. -/
def headline : Fault → String
  | repeated f => "error: the argument '" ++ f.usage ++ "' cannot be used multiple times"
  | missingValue f => "error: a value is required for '" ++ f.usage ++ "' but none was supplied"
  | invalidValue f value => "error: invalid value '" ++ value ++ "' for '" ++ f.usage ++ "'"
  | unneededValue f value _ =>
    "error: unexpected value '" ++ value ++ "' for '" ++ f.usage
      ++ "' found; no more were expected"
  | unknown argument _ _ => "error: unexpected argument '" ++ argument ++ "' found"

/-- The words that the level of detail is chosen from. -/
def levelWords : List String := Log.Level.all.map Log.Level.word

/-- The line that lists those words. -/
def levelLine : String := "  [possible values: " ++ ", ".intercalate levelWords ++ "]"

/-- The line that says how the program is called. -/
def usageLine (used : List Flag) : String :=
  "Usage: psh " ++ (if used.isEmpty then "[OPTIONS]" else " ".intercalate (used.map Flag.usage))

/-- The lines that follow the first one. -/
def details : Fault → List String
  | repeated _ => ["", usageLine []]
  | missingValue _ => [levelLine]
  | invalidValue _ value =>
    levelLine ::
      match Text.similar? value levelWords with
      | some word => ["", "  tip: a similar value exists: '" ++ word ++ "'"]
      | none => []
  | unneededValue _ _ used => ["", usageLine used]
  | unknown _ similar used =>
    (match similar with
      | some f => ["", "  tip: a similar argument exists: '--" ++ f.long ++ "'"]
      | none => []) ++ ["", usageLine used]

/-- All lines of the answer to a wrong command line. -/
def lines (f : Fault) : List String :=
  f.headline :: f.details ++ ["", "For more information, try '--help'."]

end Fault

/-- The name and number of the program. -/
def versionText : String := "psh 0.1.0\n"

/-- What the program says about itself. -/
def helpText : String :=
  "A small interactive shell with two-stage pipelines and a process table.\n"
    ++ "\n"
    ++ Fault.usageLine [] ++ "\n"
    ++ "\n"
    ++ "Options:\n"
    ++ "  -d, --debug              Print each spawned PID and the command about to be executed\n"
    ++ "      --log-level <LEVEL>  Logging level. Falls back to `" ++ Log.Level.settingName
    ++ "`, then to `warn`"
    ++ " [possible values: " ++ ", ".intercalate Fault.levelWords ++ "]\n"
    ++ "  -h, --help               Print help\n"
    ++ "  -V, --version            Print version\n"

/-- What has been taken from the arguments so far. -/
structure Scan where
  options : Options
  /-- The options that stood there, in order. -/
  used : List Flag
  /-- Whether the option for the level still waits for its value, or to have it looked at. -/
  pending : Option (Option String)

namespace Scan

/-- Nothing taken yet. -/
def start : Scan := ⟨⟨false, none⟩, [], none⟩

/-- Takes a value for the level. -/
def setLevel (s : Scan) (value : String) : Except Fault Scan :=
  if s.options.level.isSome then
    .error (.repeated .logLevel)
  else if value.isEmpty then
    .error (.missingValue .logLevel)
  else
    match Log.Level.ofWord? value with
    | some level =>
      .ok ⟨{ s.options with level := some level }, s.used ++ [.logLevel], none⟩
    | none => .error (.invalidValue .logLevel value)

/-- Looks at a value that has been put off. -/
def settle (s : Scan) : Except Fault Scan :=
  match s.pending with
  | none => .ok s
  | some none => .error (.missingValue .logLevel)
  | some (some value) => { s with pending := none }.setLevel value

/-- The options used when whatever was put off is counted as far as it is right. -/
def usedSoFar (s : Scan) : List Flag :=
  match s.settle with
  | .ok s => s.used
  | .error _ => s.used

/-- Takes an option without a value. -/
def takeFlag (s : Scan) (f : Flag) : Except Fault (Scan ⊕ Request) := do
  let s ← s.settle
  match f with
  | .help => return .inr .help
  | .version => return .inr .version
  | .logLevel => return .inl { s with pending := some none }
  | .debug =>
    if s.options.announce then
      throw (.repeated .debug)
    else
      return .inl { s with options := { s.options with announce := true }, used := s.used ++ [f] }

/-- Takes a run of letters, each of which is an option. -/
def takeLetters (s : Scan) : List Char → Except Fault (Scan ⊕ Request)
  | [] => .ok (.inl s)
  | c :: rest => do
    match Flag.ofShort? c with
    | none => throw (.unknown ("-" ++ String.singleton c) none [])
    | some f =>
      match ← s.takeFlag f with
      | .inr request => return .inr request
      | .inl s => s.takeLetters rest

/-- Takes a long option, perhaps with a value behind an equals sign. -/
def takeLong (s : Scan) (name : String) (value : Option String) :
    Except Fault (Scan ⊕ Request) := do
  match Flag.ofLong? name, value with
  | none, _ =>
    let similar := (Text.similar? name (Flag.all.map Flag.long)).bind Flag.ofLong?
    let used := s.usedSoFar
    throw (.unknown ("--" ++ name) similar (used ++ similar.toList.filter (!used.contains ·)))
  | some .logLevel, some value => return .inl (← (← s.settle).setLevel value)
  | some f, some value => throw (.unneededValue f value s.usedSoFar)
  | some f, none => s.takeFlag f

/-- Takes an argument that is no option: it is a value, or out of place. -/
def takePlain (s : Scan) (argument : String) : Except Fault (Scan ⊕ Request) :=
  match s.pending with
  | some none => .ok (.inl { s with pending := some (some argument) })
  | _ => .error (.unknown argument none [])

end Scan

/-- An argument by its form. -/
inductive Form where
  /-- The mark behind which no argument is an option. -/
  | divider
  | long (name : String) (value : Option String)
  | letters (cs : List Char)
  | plain

/-- The form of an argument. -/
def Form.of (argument : String) : Form :=
  match argument.toList with
  | ['-', '-'] => divider
  | '-' :: '-' :: cs =>
    let name := cs.takeWhile (· ≠ '=')
    let value := match cs.dropWhile (· ≠ '=') with
      | [] => none
      | _ :: value => some (String.ofList value)
    long (String.ofList name) value
  | '-' :: c :: cs => letters (c :: cs)
  | _ => plain

/-- Takes the arguments from left to right. -/
def scan (s : Scan) : List String → Except Fault Request
  | [] => do return .run (← s.settle).options
  | argument :: rest => do
    let step ← match Form.of argument with
      | .divider =>
        -- Behind the mark only values could follow, and the program takes none.
        match rest with
        | [] => return .run (← s.settle).options
        | next :: _ => throw (.unknown next none [])
      | .long name value => s.takeLong name value
      | .letters cs => s.takeLetters cs
      | .plain => s.takePlain argument
    match step with
    | .inr request => return request
    | .inl s => scan s rest

/-- What a command line asks for, the name of the program left out. -/
def parse (arguments : List String) : Except Fault Request := scan .start arguments

end Options

end JobShell
