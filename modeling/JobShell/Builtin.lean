import JobShell.Listing
import JobShell.Wait

/-!
# Built-in commands

The commands that the shell carries out itself. Each is given its arguments, its own name among
them, and nothing else: the redirections typed with it have no effect.
-/

namespace JobShell

/-- A command that the shell carries out itself. -/
inductive Builtin where
  /-- Changes the working directory. -/
  | cd
  /-- Lists the processes and drops the dead ones. -/
  | procs
  /-- Lists the history. -/
  | hist
  /-- Acts on a process. -/
  | control (what : Control)
  /-- Ends the shell. -/
  | quit
  deriving DecidableEq, Repr

namespace Builtin

/-- The built-in command with a name. -/
def ofName? : String → Option Builtin
  | "cd" => some cd
  | "procs" => some procs
  | "hist" => some hist
  | "quit" => some quit
  | name => (Control.ofKeyword? name).map control

end Builtin

namespace Shell

/-- The argument of a built-in command that needs one. A command that was not even given its own
name cannot say what is missing, and breaks down. -/
def argument : List String → Shell String
  | _ :: arg :: _ => return arg
  | [name] => fail (.missingArgument name)
  | [] => throw .crash

/-- The name that a built-in command was called by. -/
def ownName : List String → String := (·.headD "")

/-- Changes the working directory. -/
def changeDirectory (arguments : List String) : Shell Unit := do
  let path ← argument arguments
  if path.toList.contains '\x00' then
    fail (.cd .nulInPath)
  match ← ask (.changeDirectory path) with
  | .ok () => return ()
  | .error e => fail (.cd (.system e))

/-- Writes the pieces of a text one after the other. -/
def writeAll (pieces : List String) : Shell Unit := pieces.forM write

/-- Lists the processes and drops the dead ones. -/
def listProcesses (settings : Settings) : Shell Unit := do
  writeAll (Listing.pieces (← listAndReap settings))

/-- One line of the history, with its number. -/
def historyLine (entry : Nat × String) : String :=
  toString entry.1 ++ ": " ++ entry.2 ++ "\n"

/-- Lists the history. -/
def listHistory : Shell Unit := do
  writeAll ((← get).history.numbered.map historyLine)

/-- Sends the signal of a control command. What it is expected to do is written down first, and
stays written down if the signal cannot be sent. -/
def dispatch (pid : Pid) (control : Control) : Shell Unit := do
  let tracked := (← get).table.tracks pid
  modifyTable (·.predict pid control.predicted)
  log (.sending pid control tracked)
  match ← ask (.kill pid control.signal) with
  | .ok () => return ()
  | .error e =>
    log (.undelivered pid control.signal e)
    fail (.kill e)

/-- Carries out a control command on the process that its argument names. -/
def actOnProcess (control : Control) (arguments : List String) : Shell Unit := do
  let arg ← argument arguments
  match Pid.ofText? arg with
  | some pid => dispatch pid control
  | none => fail (.invalidPid (ownName arguments) arg)

/-- Carries out a built-in command. -/
def runBuiltin (settings : Settings) (builtin : Builtin) (arguments : List String) :
    Shell Flow := do
  match builtin with
  | .cd =>
    changeDirectory arguments
    return .proceed
  | .procs =>
    listProcesses settings
    return .proceed
  | .hist =>
    listHistory
    return .proceed
  | .control control =>
    actOnProcess control arguments
    return .proceed
  | .quit =>
    modify Session.shutdown
    return .quit

end Shell

end JobShell
