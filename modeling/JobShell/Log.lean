import JobShell.Command
import JobShell.Control
import JobShell.Errno
import JobShell.Pid
import JobShell.Text.Blank

/-!
# Log

The events that the shell logs, how grave each is, and its line. A level of detail is chosen on
the command line or in the environment; events less grave than it are left out.
-/

namespace JobShell

/-- The part that a stage plays in its command. -/
inductive Role where
  /-- The only stage. -/
  | alone
  /-- The first of two: writes into the pipe. -/
  | pipeWriter
  /-- The second of two: reads from the pipe. -/
  | pipeReader
  deriving DecidableEq, Repr

/-- The name of a role in a log line. -/
def Role.label : Role → String
  | alone => "Alone"
  | pipeWriter => "PipeWriter"
  | pipeReader => "PipeReader"

namespace Log

/-- How grave an event is, or how much detail is wanted. -/
inductive Level where
  | error | warn | info | debug | trace
  deriving DecidableEq, Repr, Inhabited

namespace Level

/-- All levels, the gravest first. -/
def all : List Level := [error, warn, info, debug, trace]

/-- The word that names a level on the command line. -/
def word : Level → String
  | error => "error"
  | warn => "warn"
  | info => "info"
  | debug => "debug"
  | trace => "trace"

/-- The name of a level in a log line. -/
def label (l : Level) : String := l.word.toUpper

/-- The level with a name. -/
def ofWord? (s : String) : Option Level := all.find? (·.word = s)

/-- The detail a level asks for: the higher, the more. -/
def detail (l : Level) : Nat := all.idxOf l

/-- The level that a setting of the environment names: any case, white space at the ends, and
`warning` for `warn`. No letter outside ASCII turns into one of these words in lower case. -/
def ofSetting? (s : String) : Option Level :=
  let word := (Text.strip s).map Char.toLower
  if word = "warning" then some warn else ofWord? word

/-- The level without any setting. -/
def standard : Level := warn

/-- The name of the environment's setting. -/
def settingName : String := "PSH_LOG"

/-- The level in force: the one asked for on the command line, else the one the environment
names, else the standard one. -/
def choose (option : Option Level) (setting : Option String) : Level :=
  option.getD ((setting.bind ofSetting?).getD standard)

end Level

/-- Something worth logging. -/
inductive Event where
  /-- A process has been made for a stage. -/
  | spawned (pid : Pid) (command : Command) (role : Role)
  /-- A process has been entered into the table. -/
  | tracking (pid : Pid) (command : Command)
  /-- The shell has done waiting for a process. -/
  | waited (pid : Pid) (status : Status)
  /-- All processes of a command have been made. -/
  | launched (pids : List Pid)
  /-- A process could not be waited for. -/
  | waitFailed (pid : Pid) (cause : Errno)
  /-- There was no news to be had of a process. -/
  | pollFailed (pid : Pid) (cause : Errno)
  /-- A dead process leaves the table. -/
  | reaping (pid : Pid)
  /-- A signal is about to be sent. -/
  | sending (pid : Pid) (control : Control) (tracked : Bool)
  /-- A signal could not be sent. -/
  | undelivered (pid : Pid) (signal : Signal) (cause : Errno)
  /-- The shell ends. -/
  | leaving
  deriving DecidableEq, Repr

namespace Event

/-- How grave an event is. -/
def level : Event → Level
  | undelivered .. => .warn
  | leaving => .info
  | _ => .debug

/-- The part of the shell that an event comes from. -/
def target : Event → String
  | spawned .. | waited .. => "psh::eval"
  | tracking .. | waitFailed .. | pollFailed .. | reaping .. => "psh::job"
  | launched .. | leaving => "psh::repl"
  | sending .. | undelivered .. => "psh::signal"

/-- What an event says. -/
def message : Event → String
  | spawned .. => "spawned"
  | tracking .. => "tracking process"
  | waited .. => "foreground wait finished"
  | launched .. => "command launched"
  | waitFailed .. => "waitpid failed while blocking"
  | pollFailed .. => "waitpid failed, treating process as gone"
  | reaping .. => "reaping record"
  | sending .. => "sending control signal"
  | undelivered .. => "signal delivery failed"
  | leaving => "leaving the interpreter"

/-- The named values that go with an event. -/
def fields : Event → List (String × String)
  | spawned pid command role =>
    [("pid", pid.text), ("command", command.render), ("role", role.label)]
  | tracking pid command => [("pid", pid.text), ("command", command.render)]
  | waited pid status => [("pid", pid.text), ("status", status.text)]
  | launched pids =>
    [("pids", "[" ++ ", ".intercalate (pids.map fun p => "Pid(" ++ p.text ++ ")") ++ "]")]
  | waitFailed pid cause | pollFailed pid cause =>
    [("pid", pid.text), ("error", cause.symbolic)]
  | reaping pid => [("pid", pid.text)]
  | sending pid control tracked =>
    [("pid", pid.text), ("control", control.label), ("tracked", toString tracked)]
  | undelivered pid signal cause =>
    [("pid", pid.text), ("signal", signal.name), ("error", cause.symbolic)]
  | leaving => []

/-- Whether an event is logged at a level of detail. -/
def isWanted (e : Event) (l : Level) : Bool := e.level.detail ≤ l.detail

/-- The line of an event, without time and padding. -/
def line (e : Event) : String :=
  e.level.label ++ " " ++ e.target ++ ": "
    ++ " ".intercalate (e.message :: e.fields.map fun f => f.1 ++ "=" ++ f.2)

end Event

end Log

end JobShell
