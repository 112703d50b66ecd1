import JobShell.Errno

/-!
# What can go wrong

The causes for which the shell refuses a line or fails at it, the wording of each, and which of
them leave the shell unable to go on.
-/

namespace JobShell

/-- Why a line is not a command. -/
inductive ParseError where
  /-- A stage has no arguments. -/
  | emptyCommand
  /-- A redirection names no file. -/
  | emptyRedirect
  /-- Something follows the ampersand, beginning with `c`. -/
  | trailingAfterBackground (c : Char)
  /-- There is a second pipe. -/
  | pipelineTooLong
  deriving DecidableEq, Repr

/-- The wording of a parse error. -/
def ParseError.message : ParseError → String
  | emptyCommand => "empty command"
  | emptyRedirect => "empty redirect"
  | trailingAfterBackground c => "character after '&': '" ++ String.singleton c ++ "'"
  | pipelineTooLong => "only two-stage pipelines are supported"

/-- Why a command is not launched, or not wholly. -/
inductive LaunchError where
  /-- No pipe could be made. -/
  | pipe (cause : Errno)
  /-- No process could be made. -/
  | fork (cause : Errno)
  /-- The first stage writes to a file and into a pipe. -/
  | outputBeforePipe
  /-- The second stage reads from a file and out of a pipe. -/
  | inputAfterPipe
  /-- There are more than two stages. -/
  | tooManyStages
  /-- A stage has no arguments. -/
  | emptyCommand
  /-- An argument holds a NUL, the first one at this byte. -/
  | nul (position : Nat)
  deriving DecidableEq, Repr

namespace LaunchError

/-- The wording of a launch error. -/
def message : LaunchError → String
  | pipe e => "pipe failed: " ++ e.symbolic
  | fork e => "fork failed: " ++ e.symbolic
  | outputBeforePipe => "output redirection not supported in the first stage of a pipeline"
  | inputAfterPipe => "input redirection not supported in the second stage of a pipeline"
  | tooManyStages => "only two-stage pipelines are supported"
  | emptyCommand => "empty command"
  | nul position =>
    "Nul char error: nul byte found in provided data at position: " ++ toString position

/-- The failure of the operating system behind the error, for those that leave the shell unable
to go on: without pipes and processes it can do nothing more. -/
def fatalCause? : LaunchError → Option Errno
  | pipe e | fork e => some e
  | _ => none

/-- Whether the shell ends over the error. -/
def isFatal (e : LaunchError) : Bool := e.fatalCause?.isSome

end LaunchError

/-- Why an operation on a file failed. -/
inductive FileError where
  /-- The operating system refused. -/
  | system (cause : Errno)
  /-- The path holds a NUL, so that it cannot be handed to the operating system. -/
  | nulInPath
  deriving DecidableEq, Repr

/-- The wording of a file error. -/
def FileError.message : FileError → String
  | system e => e.numbered
  | nulInPath => "file name contained an unexpected NUL byte"

/-- Why a line failed. -/
inductive ShellError where
  | launch (cause : LaunchError)
  | parse (cause : ParseError)
  /-- A built-in command was given no argument. -/
  | missingArgument (name : String)
  /-- A control command was given an argument that is no process number. -/
  | invalidPid (name argument : String)
  /-- The working directory could not be changed. -/
  | cd (cause : FileError)
  /-- A signal could not be sent. -/
  | kill (cause : Errno)
  /-- The last line was asked for before there was one. -/
  | noHistory
  /-- No line has the number asked for. -/
  | invalidHistoryReference
  /-- Output could not be written. -/
  | output (cause : FileError)
  deriving DecidableEq, Repr

namespace ShellError

/-- The wording of an error. -/
def message : ShellError → String
  | launch e => e.message
  | parse e => "parse error: " ++ e.message
  | missingArgument name => name ++ ": missing argument"
  | invalidPid name argument => name ++ ": invalid PID '" ++ argument ++ "'"
  | cd e => "cd failed: " ++ e.message
  | kill e => "kill failed: " ++ e.symbolic
  | noHistory => "No history yet."
  | invalidHistoryReference => "Invalid history reference."
  | output e => "IO error: " ++ e.message

/-- Whether the shell ends over the error. -/
def isFatal : ShellError → Bool
  | launch e => e.isFatal
  | _ => false

end ShellError

end JobShell
