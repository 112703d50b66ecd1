import JobShell.Error
import JobShell.History
import JobShell.System
import JobShell.Table

/-!
# What the shell computes with

The state that the shell carries from line to line, the settings it was started with, and the
computations on them: they make calls to the system, change the state, and may fail. A failure
keeps the changes made before it.
-/

namespace JobShell

/-- Where news of the processes comes from. -/
inductive Probe where
  /-- The shell waits for its children without blocking. -/
  | children
  /-- An outside observer reports. -/
  | observer
  deriving DecidableEq, Repr

/-- What a shell was started with. -/
structure Settings where
  /-- Whether each launch is announced on standard error. -/
  announce : Bool
  probe : Probe
  /-- How often a wait that yields nothing is repeated before the shell counts as stuck. -/
  patience : Nat
  deriving DecidableEq, Repr

/-- What a shell carries from line to line. -/
structure Session where
  table : Table
  history : History
  deriving DecidableEq, Repr

namespace Session

/-- A shell that has done nothing yet. -/
def fresh : Session := ⟨.empty, .empty History.defaultCapacity⟩

/-- Forgets every process and every line. -/
def shutdown (s : Session) : Session := ⟨.empty, s.history.clear⟩

end Session

/-- How a computation of the shell fails. -/
inductive Failure where
  /-- The user is told. -/
  | error (cause : ShellError)
  /-- The shell breaks down: it relied on something that was not there. -/
  | crash
  /-- The shell is still waiting when its patience is over. -/
  | stuck
  deriving DecidableEq, Repr

/-- Whether the shell goes on after a line. -/
inductive Flow where
  | proceed
  | quit
  deriving DecidableEq, Repr

/-- A computation of the shell. -/
abbrev Shell (α : Type) : Type := ExceptT Failure (StateT Session Program) α

namespace Shell

/-- Makes a call. -/
def ask (c : Call) : Shell c.Answer :=
  ExceptT.lift (StateT.lift (Program.ask c))

/-- Fails with an error that the user is told. -/
def fail {α : Type} (e : ShellError) : Shell α := throw (.error e)

/-- Logs an event. -/
def log (e : Log.Event) : Shell Unit := ask (.log e)

/-- Writes a line to standard error. -/
def complain (line : String) : Shell Unit := ask (.complain line)

/-- Writes to standard output. -/
def write (text : String) : Shell Unit := do
  match ← ask (.write text) with
  | .ok () => return ()
  | .error e => fail (.output (.system e))

/-- Hands on what has been written to standard output. -/
def flush : Shell Unit := do
  match ← ask .flush with
  | .ok () => return ()
  | .error e => fail (.output (.system e))

/-- Changes the process table. -/
def modifyTable (f : Table → Table) : Shell Unit :=
  modify fun s => { s with table := f s.table }

/-- Enters a process that has just been launched into the table. -/
def track (pid : Pid) (command : Command) : Shell Unit := do
  log (.tracking pid command)
  modifyTable (·.insert pid command)

end Shell

end JobShell
