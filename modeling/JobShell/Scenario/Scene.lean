import JobShell.Line
import JobShell.Machine.Boot
import JobShell.Scenario.Names

/-!
# Scenes

A shell on a machine, driven step by step. Each step uses one part of the shell: it processes a
line, launches a command, looks at the process table, or only changes what the shell remembers.
What the shell's built-in commands write is kept apart from the machine's console.
-/

namespace JobShell.Scenario

open Machine

/-- A shell on a machine, between two steps. -/
structure Scene where
  settings : Settings
  session : Session
  kernel : Kernel
  /-- What the outside observer will report. -/
  reports : List (Pid × Status)
  /-- The processes that the outside observer was asked about, the last one first. -/
  polled : List Pid
  /-- What built-in commands have written, the last piece first. -/
  written : List String
  /-- The processes that have been launched. -/
  launched : Names
  /-- Lines with process numbers in them, and how each was given. -/
  given : List (String × String)

/-- A use of the shell. -/
inductive Step where
  /-- Process a line. -/
  | line (text : String)
  /-- Process a line in which names stand for process numbers. -/
  | namedLine (text : String)
  /-- Carry out a built-in command, if there is one of that name. -/
  | builtin (name : String) (arguments : List String)
  /-- Launch a command. -/
  | execute (command : Command) (announce : Bool)
  /-- Act on a process. -/
  | control (what : Control) (pid : Pid)
  /-- Look at the processes again and again until one has a status. -/
  | untilStatus (pid : Pid) (status : Status)
  /-- Wait until a child has ended or stopped. -/
  | awaitChild (pid : Pid)
  /-- Ask for news of a process. -/
  | poll (pid : Pid)
  | size
  | insert (pid : Pid) (command : Command)
  /-- Write down what is expected of a process. -/
  | predict (pid : Pid) (status : Status)
  /-- Write down what a process has been seen doing. -/
  | observe (pid : Pid) (status : Status)
  | refresh
  | reap
  | get (pid : Pid)
  /-- Add to what the outside observer will report. -/
  | probe (reports : List (Pid × Status))
  | push (line : String)
  | history
  /-- Forget the processes. -/
  | destroy
  /-- Forget the processes and the history. -/
  | shutdown

/-- What a step yields. -/
inductive Yield where
  | nothing
  | done
  /-- The status that was waited for did not come. -/
  | late
  | flow (flow : Flow)
  | failed (cause : ShellError)
  | crashed
  | pids (pids : List Pid)
  | status (status : Option Status)
  | count (n : Nat)
  | size (n : Nat) (isEmpty : Bool)
  | flag (value : Bool)
  | entries (entries : List Entry)
  | record (record : Option Record)
  | lines (lines : List (Nat × String))

namespace Scene

/-- How many times a wait may come to nothing. -/
def patience : Nat := 10000

/-- A shell that has done nothing yet. -/
def start (announce : Bool) (probe : Probe) (setup : Setup) : Scene where
  settings := ⟨announce, probe, patience⟩
  session := .fresh
  kernel := Kernel.boot setup
  reports := []
  polled := []
  written := []
  launched := []
  given := []

/-- A computation of the scene, which a signal may end. -/
abbrev Action (α : Type) : Type := ExceptT Signal (StateM Scene) α

/-- Carries out what only concerns the machine. -/
def onMachine {α : Type} (x : Guided α) : Action α := fun s =>
  let (result, kernel) := x s.kernel
  (result, { s with kernel })

/-- The first report about a process, and the others. -/
def takeReport (pid : Pid) : List (Pid × Status) → Option Status × List (Pid × Status)
  | [] => (none, [])
  | r :: rest =>
    if r.1 = pid then
      (some r.2, rest)
    else
      let (found, rest) := takeReport pid rest
      (found, r :: rest)

/-- How the calls of the shell are answered in a scene. -/
def answer : (c : Call) → Action c.Answer
  | .report pid => fun s =>
    let (found, reports) := takeReport pid s.reports
    (.ok found, { s with reports, polled := pid :: s.polled })
  | .write text => fun s => (.ok (.ok ()), { s with written := text :: s.written })
  | .fork launch => do
    let result ← onMachine (Kernel.answer Kernel.shellPid (.fork launch))
    if let .ok pid := result then
      modify fun s => { s with launched := s.launched ++ [pid.number.toNat] }
    return result
  | c => onMachine (Kernel.answer Kernel.shellPid c)

/-- Lets the shell compute something. -/
def compute {α : Type} (x : Shell α) : Action (Except Failure α) := do
  let (result, session) ← Program.run answer (x.run (← get).session)
  modify fun s => { s with session }
  return result

/-- Lets the shell compute something, and says what that yields. -/
def attempt {α : Type} (x : Shell α) (f : α → Yield) : Action Yield := do
  match ← compute x with
  | .ok a => return f a
  | .error (.error e) => return .failed e
  | .error _ => return .crashed

/-- The microseconds between two looks at the processes. -/
def interval : Nat := 1000

/-- How often the processes are looked at. -/
def looks : Nat := 5000

/-- Looks at the processes again and again until one has a status. -/
def untilStatus (pid : Pid) (status : Status) : Nat → Action Yield
  | 0 => return .late
  | n + 1 => do
    let settings := (← get).settings
    match ← compute (Shell.refresh settings) with
    | .error _ => return .crashed
    | .ok () =>
      if ((← get).session.table.get? pid).any (·.status = status) then
        return .done
      else
        modify fun s => { s with kernel := s.kernel.pass interval }
        untilStatus pid status n

/-- A text with process numbers in the place of their names, the highest name first. -/
def withNumbers (launched : Names) (text : String) : String :=
  (launched.zipIdx.reverse).foldl (fun s (pid, place) =>
    s.replace (Names.nameAt place) (toString pid)) text

/-- A line as it was given. -/
def asGiven (s : Scene) (line : String) : String := (s.given.lookup line).getD line

/-- Changes what the shell carries from line to line. -/
def change (f : Session → Session) : Action Unit :=
  modify fun s => { s with session := f s.session }

/-- Changes the process table. -/
def changeTable (f : Table → Table) : Action Unit :=
  change fun s => { s with table := f s.table }

/-- Processes a line. -/
def processLine (text : String) : Action Yield := do
  let settings := (← get).settings
  attempt (Shell.processLine settings text) .flow

/-- Carries out a step. -/
def perform (step : Step) : Action Yield := do
  let scene ← get
  let settings := scene.settings
  let table := scene.session.table
  match step with
  | .line text => processLine text
  | .namedLine text =>
    let line := withNumbers scene.launched text
    set { scene with given := (line, text) :: scene.given }
    processLine line
  | .builtin name arguments =>
    match Builtin.ofName? name with
    | some b => attempt (Shell.runBuiltin settings b arguments) .flow
    | none => return .nothing
  | .execute command announce =>
    attempt (Shell.launch { settings with announce } command) .pids
  | .control what pid => attempt (Shell.dispatch pid what) fun () => .done
  | .untilStatus pid status => untilStatus pid status looks
  | .awaitChild pid => attempt (Shell.awaitChild pid settings.patience) fun s => .status (some s)
  | .poll pid => attempt (Shell.poll settings pid) .status
  | .size => return .size table.length table.isEmpty
  | .insert pid command =>
    changeTable (·.insert pid command)
    return .count (table.length + 1)
  | .predict pid status =>
    changeTable (·.predict pid status)
    return .flag (table.tracks pid)
  | .observe pid status =>
    changeTable (·.observe pid status)
    return .nothing
  | .refresh => attempt (Shell.refresh settings) fun () => .nothing
  | .reap => attempt (Shell.listAndReap settings) .entries
  | .get pid => return .record (table.get? pid)
  | .probe reports =>
    set { scene with reports := scene.reports ++ reports }
    return .count (scene.reports.length + reports.length)
  | .push line =>
    change fun s => { s with history := s.history.push line }
    return .count (← get).session.history.length
  | .history => return .lines scene.session.history.numbered
  | .destroy =>
    changeTable fun _ => .empty
    return .nothing
  | .shutdown =>
    change Session.shutdown
    return .nothing

/-- A scene before a step: nothing has been written or asked yet. -/
def beforeStep (s : Scene) : Scene := { s with polled := [], written := [] }

/-- Carries out one step from the outside. -/
def step (s : Scene) (what : Step) : Yield × Scene :=
  match (perform what).run s.beforeStep with
  | (.ok y, s) => (y, s)
  | (.error _, s) => (.crashed, s)

/-! ## What can be seen of a scene -/

/-- What the built-in commands have written, with names for process numbers and with lines as they
were given. -/
def writtenText (s : Scene) : String :=
  let text := s.launched.renameListed (String.join s.written.reverse)
  Names.mapLines (fun line =>
    let digits := line.toList.takeWhile Char.isDigit
    match line.toList.drop digits.length with
    | ':' :: ' ' :: rest =>
      if digits.isEmpty then line
      else String.ofList digits ++ ": " ++ s.asGiven (String.ofList rest)
    | _ => line) text

/-- The working directory, as it is seen from where the shell began. -/
def directory (s : Scene) : String := (s.kernel.shellDirectory).getD ""

/-- The last line of the history, as it was given. -/
def lastLine? (s : Scene) : Option String := s.session.history.last?.map s.asGiven

/-- The processes that the outside observer was asked about, the first one first. -/
def polledPids (s : Scene) : List Pid := s.polled.reverse

end Scene

end JobShell.Scenario
