import JobShell.Builtin
import JobShell.Command.Parser
import JobShell.Launch

/-!
# Processing a line

What the shell does with one line of input: it resolves a reference to an earlier line, records
the line, reads it as a command, and then carries out a built-in command or launches programs.
-/

namespace JobShell

namespace Shell

/-- A line without the line feeds and carriage returns at its end. -/
def withoutLineEnd (raw : String) : String :=
  String.ofList (Text.dropTrailing (fun c => c = '\n' || c = '\r') raw.toList)

/-- The built-in command that a command asks for. A pipeline never asks for one. -/
def builtin? (command : Command) : Option Builtin :=
  if command.isPipeline then none else Builtin.ofName? command.name

/-- Carries out a command. -/
def execute (settings : Settings) (command : Command) : Shell Flow := do
  match builtin? command with
  | some builtin => runBuiltin settings builtin command.first.arguments
  | none =>
    flush
    let pids ← launch settings command
    log (.launched pids)
    return .proceed

/-- Records a line and carries out the command on it. -/
def processResolved (settings : Settings) (line : String) : Shell Flow := do
  modify fun s => { s with history := s.history.push line }
  match Command.parse line with
  | .error (.refused e) => fail (.parse e)
  | .error .brokenCut => throw .crash
  | .ok none => return .proceed
  | .ok (some command) => execute settings command

/-- Processes a line of input. A line of white space is ignored. -/
def processLine (settings : Settings) (raw : String) : Shell Flow := do
  let line := withoutLineEnd raw
  if Text.isBlankText line then
    return .proceed
  else
    match (← get).history.resolve line with
    | .error e => fail e
    | .ok resolved => processResolved settings resolved

end Shell

end JobShell
