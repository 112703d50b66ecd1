import JobShell.Text.Bytes
import JobShell.Wait

/-!
# Launching

A command is checked before anything is done for it; then its pipe is made, one process is made
for each stage and entered into the table, and, unless every stage is in the background, the shell
waits for each process to end or stop.

`check` is the whole of the checking: a command that passes it fails only if the system can make
no pipe or no process.
-/

namespace JobShell

namespace Stage

/-- The position, in bytes, of the first NUL of a text. -/
def nulPosition? (s : String) : Option Nat :=
  if s.toList.contains '\x00' then
    some (Text.utf8Length (s.toList.takeWhile (· ≠ '\x00')))
  else
    none

/-- What forbids running a stage: it has no arguments, or one of them holds a NUL. -/
def check (s : Stage) : Except LaunchError Unit :=
  if s.arguments.isEmpty then
    .error .emptyCommand
  else
    match s.arguments.findSome? nulPosition? with
    | some position => .error (.nul position)
    | none => .ok ()

end Stage

namespace Command

/-- What forbids joining the stages of a command by pipes. -/
def checkRedirects (c : Command) : Except LaunchError Unit :=
  match c.rest with
  | [] => .ok ()
  | second :: more =>
    if c.first.output.isSome then
      .error .outputBeforePipe
    else if second.input.isSome then
      .error .inputAfterPipe
    else if !more.isEmpty then
      .error .tooManyStages
    else
      .ok ()

/-- What forbids launching a command: the way its stages are joined, then its first stage, then
its second. -/
def check (c : Command) : Except LaunchError Unit := do
  c.checkRedirects
  for s in c.stages do
    s.check

/-- Whether the shell waits for a command: it does if it is to wait for either of the first two
stages. -/
def isBlocking (c : Command) : Bool :=
  c.first.blocking || (match c.rest with | [] => false | second :: _ => second.blocking)

end Command

namespace Shell

/-- Makes a process for a stage and enters it into the table. -/
def spawn (settings : Settings) (stage : Stage) (role : Role) (pipe : Option Pipe) :
    Shell (Except Errno Pid) := do
  match ← ask (.fork ⟨stage, role, pipe, settings.announce⟩) with
  | .error e => return .error e
  | .ok pid =>
    if settings.announce then
      complain ("PID: " ++ pid.text)
      complain ("Executing command: " ++ stage.name)
    log (.spawned pid (.single stage) role)
    track pid (.single stage)
    return .ok pid

/-- Makes the processes of a command whose stages are joined by `pipe`, which the shell then
closes: the second stage sees the end of its input only when nobody else can write any more. -/
def spawnPair (settings : Settings) (first second : Stage) (pipe : Pipe) :
    Shell (Except Errno (List Pid)) := do
  match ← spawn settings first .pipeWriter (some pipe) with
  | .error e =>
    ask (.closePipe pipe)
    return .error e
  | .ok writer =>
    match ← spawn settings second .pipeReader (some pipe) with
    | .error e =>
      ask (.closePipe pipe)
      return .error e
    | .ok reader =>
      ask (.closePipe pipe)
      return .ok [writer, reader]

/-- Makes the processes of a command that has passed its check. -/
def spawnStages (settings : Settings) (command : Command) : Shell (List Pid) := do
  match command.rest with
  | [] =>
    match ← spawn settings command.first .alone none with
    | .error e => fail (.launch (.fork e))
    | .ok pid => return [pid]
  | second :: _ =>
    match ← ask .makePipe with
    | .error e => fail (.launch (.pipe e))
    | .ok pipe =>
      match ← spawnPair settings command.first second pipe with
      | .error e => fail (.launch (.fork e))
      | .ok pids => return pids

/-- Waits for each of the processes in turn and writes down how it was found. -/
def awaitAll (settings : Settings) : List Pid → Shell Unit
  | [] => return ()
  | pid :: rest => do
    let status ← awaitChild pid settings.patience
    log (.waited pid status)
    modifyTable (·.observe pid status)
    awaitAll settings rest

/-- Launches a command; the answer is the numbers of its processes. -/
def launch (settings : Settings) (command : Command) : Shell (List Pid) := do
  match command.check with
  | .error e => fail (.launch e)
  | .ok () =>
    let pids ← spawnStages settings command
    if command.isBlocking then
      awaitAll settings pids
    return pids

end Shell

end JobShell
