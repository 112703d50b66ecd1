import JobShell.Descriptors
import JobShell.Machine.Task

/-!
# Processes

A process of the machine and what signals do to it. A signal that is to end or stop a process
waits until the process has its turn, and a stopped process has none; only a signal that lets it go
on reaches it at once.
-/

namespace JobShell.Machine

/-- How far a process has come. -/
inductive Life where
  /-- It has this still to do. -/
  | working (task : Task)
  /-- It is moved from outside the machine. -/
  | guided
  /-- It has ended with a status word, and nobody has asked for it yet. -/
  | ended (word : Nat)

/-- What the parent of a process can learn besides its end. -/
inductive News where
  | stopped (signal : Signal)
  | resumed
  deriving DecidableEq, Repr

/-- A process. -/
structure Process where
  pid : Nat
  parent : Nat
  life : Life
  /-- The open files, by their numbers in the machine. -/
  descriptors : Descriptors Nat
  /-- The number of descriptors that it may have. -/
  limit : Option Nat
  /-- The number of the working directory. -/
  directory : Nat
  environment : Environment
  /-- What differs from the default. -/
  dispositions : List (Signal × Disposition)
  /-- The signals that wait for its turn. -/
  pending : List Signal
  /-- The handled signals that it has not asked for. -/
  caught : List Signal
  isStopped : Bool
  news : Option News
  /-- When its sleep is over. -/
  wake : Option Nat

namespace Process

/-- Whether a process has not ended. -/
def isAlive (p : Process) : Bool :=
  match p.life with
  | .ended _ => false
  | _ => true

/-- Whether a process is moved from outside the machine. -/
def isGuided (p : Process) : Bool :=
  match p.life with
  | .guided => true
  | _ => false

/-- A process that has ended with a status word; it holds nothing any more. -/
def finished (p : Process) (word : Nat) : Process :=
  { p with
    life := .ended word
    descriptors := Descriptors.empty
    pending := []
    isStopped := false
    news := none }

/-- What a process does when a signal reaches it; one that kills or stops cannot be helped. -/
def disposition (p : Process) (s : Signal) : Disposition :=
  if s = .kill || s = .stop then .default else (p.dispositions.lookup s).getD .default

/-- Changes what a process does when a signal reaches it. -/
def setDisposition (p : Process) (s : Signal) (d : Disposition) : Process :=
  { p with dispositions := (s, d) :: p.dispositions.filter (·.1 ≠ s) }

/-- Whether a signal makes no difference to a process. -/
def isDeaf (p : Process) (s : Signal) : Bool :=
  match p.disposition s with
  | .ignore => true
  | .handle => false
  | .default => s.effect = .nothing

/-- Lets a stopped process go on. -/
def resume (p : Process) : Process :=
  if p.isStopped then { p with isStopped := false, news := some .resumed } else p

/-- Adds a signal to those that wait. -/
def queue (p : Process) (s : Signal) : Process :=
  if p.isDeaf s || p.pending.contains s then p else { p with pending := s :: p.pending }

/-- A signal is sent to a process. One that lets it go on cancels those that would stop it, and
the other way round. -/
def receive (p : Process) (s : Signal) : Process :=
  match s.effect with
  | .resume =>
    let p := { p with pending := p.pending.filter fun q => q.effect ≠ Signal.Effect.stop }.resume
    if p.disposition s = .handle then p.queue s else p
  | .stop =>
    { p with pending := p.pending.filter fun q => q.effect ≠ Signal.Effect.resume }.queue s
  | _ => p.queue s

/-- The signal that reaches a process first. -/
def nextSignal? (p : Process) : Option Signal :=
  if p.pending.contains .kill then some .kill
  else if p.isStopped then none
  else Signal.all.find? p.pending.contains

/-- A process becomes another program: it keeps what it ignores, and handles nothing any more. -/
def afterExec (p : Process) : Process :=
  { p with
    descriptors := p.descriptors.afterExec
    dispositions := p.dispositions.filter fun d => d.2 ≠ .handle
    caught := [] }

/-- A copy of a process that is its child. -/
def child (p : Process) (pid : Nat) (task : Task) : Process :=
  { p with
    pid
    parent := p.pid
    life := .working task
    pending := []
    caught := []
    news := none
    wake := none }

end Process

end JobShell.Machine
