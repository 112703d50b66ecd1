import JobShell.Log
import JobShell.Machine.Channel
import JobShell.Machine.Lines
import JobShell.Machine.Process

/-!
# The machine

The file tree, the open files, the pipes and the processes of a simulated computer, with a clock
that counts microseconds. What is written to its console is kept: the output as bytes, and the
diagnostics as notes that say where each came from.
-/

namespace JobShell.Machine

/-- What an open file reads from and writes to. -/
inductive Target where
  | node (n : Nat)
  | readEnd (channel : Nat)
  | writeEnd (channel : Nat)
  /-- The console, where output goes. -/
  | output
  /-- The console, where diagnostics go. -/
  | diagnostics
  deriving DecidableEq, Repr

/-- An open file. -/
structure OpenFile where
  target : Target
  mode : FileTree.OpenMode
  offset : Nat
  deriving Repr

/-- Something on the console among the diagnostics. -/
inductive Note where
  /-- Bytes that a program wrote. -/
  | raw (data : Bytes)
  /-- A line of the shell. -/
  | own (line : String)
  /-- A line of a process that has not become a program yet. -/
  | report (line : String)
  /-- An event that was logged. -/
  | event (event : Log.Event)

/-- The bytes that appear on the console. -/
def Note.bytes : Note → Bytes
  | .raw data => data
  | .own line => Bytes.ofString (line ++ "\n")
  | .report line => Bytes.ofString (line ++ "\n")
  | .event e => Bytes.ofString (e.line ++ "\n")

/-- A simulated computer. -/
structure Kernel where
  tree : FileTree
  files : Array OpenFile
  channels : Array Channel
  /-- The processes in the order in which they began. -/
  processes : List Process
  nextPid : Nat
  clock : Nat
  /-- What was written to the console, the last piece first. -/
  output : List Bytes
  /-- The diagnostics on the console, the last one first. -/
  notes : List Note

namespace Kernel

/-! ## Processes -/

/-- The process with a number. -/
def process? (k : Kernel) (pid : Nat) : Option Process := k.processes.find? (·.pid = pid)

/-- Changes the process with a number. -/
def update (k : Kernel) (pid : Nat) (f : Process → Process) : Kernel :=
  { k with processes := k.processes.map fun p => if p.pid = pid then f p else p }

/-- The children of a process. -/
def childrenOf (k : Kernel) (pid : Nat) : List Process := k.processes.filter (·.parent = pid)

/-- Forgets a process that has ended. -/
def forget (k : Kernel) (pid : Nat) : Kernel :=
  { k with processes := k.processes.filter (·.pid ≠ pid) }

/-- The process that takes over the children of one that has ended. It wants to know nothing. -/
def adopter : Nat := 1

/-- Whether the end of a process is of interest to its parent. -/
def isMourned (k : Kernel) (p : Process) : Bool :=
  match k.process? p.parent with
  | some parent => parent.isAlive && parent.disposition .chld ≠ .ignore
  | none => false

/-- The processes after one of them has ended: its children are adopted, and those of them that
have ended too are forgotten. -/
def bereave (k : Kernel) (pid : Nat) : Kernel :=
  { k with processes := k.processes.filterMap fun c =>
      if c.parent ≠ pid then some c
      else if c.isAlive then some { c with parent := adopter }
      else none }

/-- Ends a process with a status word. Its descriptors are closed and its children adopted. It is
kept if its parent may ask what became of it, or if it was moved from outside. -/
def finish (k : Kernel) (pid : Nat) (word : Nat) : Kernel :=
  match k.process? pid with
  | none => k
  | some p =>
    let k := (k.update pid (·.finished word)).bereave pid
    if k.isMourned p then
      k.update p.parent (·.receive .chld)
    else if p.isGuided then
      k
    else
      k.forget pid

/-- The status word of a process that a signal has ended. -/
def signalWord (s : Signal) : Nat := s.number

/-- The status word of a process that ended by itself. -/
def exitWord (code : Nat) : Nat := code % 256 * 256

/-- Sends a signal to a process. One that kills does so at once, unless the process is moved from
outside. -/
def send (k : Kernel) (p : Process) (s : Signal) : Kernel :=
  match p.life with
  | .ended _ => k
  | .guided => k.update p.pid (·.receive s)
  | .working _ =>
    if s = .kill then k.finish p.pid (signalWord s) else k.update p.pid (·.receive s)

/-- A signal reaches a process. -/
def deliver (k : Kernel) (p : Process) (s : Signal) : Kernel :=
  let p := { p with pending := p.pending.filter (· ≠ s) }
  match p.disposition s, s.effect with
  | .ignore, _ => k.update p.pid fun _ => p
  | .handle, _ => k.update p.pid fun _ => { p with caught := p.caught ++ [s] }
  | .default, .terminate => k.finish p.pid (signalWord s)
  | .default, .stop =>
    k.update p.pid fun _ => { p with isStopped := true, news := some (.stopped s) }
  | .default, _ => k.update p.pid fun _ => p

/-! ## Open files -/

/-- The open file that a descriptor of a process refers to, with its number. -/
def file? (k : Kernel) (p : Process) (fd : Nat) : Option (Nat × OpenFile) := do
  let slot ← p.descriptors.get? fd
  let file ← k.files[slot.file]?
  return (slot.file, file)

/-- Adds an open file. -/
def addFile (k : Kernel) (file : OpenFile) : Nat × Kernel :=
  (k.files.size, { k with files := k.files.push file })

/-- Moves the place in an open file. -/
def setOffset (k : Kernel) (n : Nat) (offset : Nat) : Kernel :=
  { k with files := k.files.modify n fun f => { f with offset } }

/-- Whether some process could read from, or write to, a target. -/
def isHeld (k : Kernel) (target : Target) : Bool :=
  k.processes.any fun p => p.descriptors.slots.any fun s =>
    k.files[s.2.file]?.any (·.target = target)

/-- The descriptor that a path to a descriptor names. -/
def descriptorOfPath? (path : String) : Option Nat :=
  if path = "/dev/stdin" then some Descriptors.standardInput
  else if path = "/dev/stdout" then some Descriptors.standardOutput
  else if path = "/dev/stderr" then some Descriptors.standardError
  else if path.startsWith "/dev/fd/" then (path.drop 8).toString.toNat?
  else none

/-- Opens a file for a process. -/
def openPath (k : Kernel) (p : Process) (path : String) (mode : FileTree.OpenMode) :
    Except Errno (Nat × Kernel) := do
  match descriptorOfPath? path with
  | some fd =>
    match p.descriptors.get? fd with
    | some slot => return (slot.file, k)
    | none => throw .noEntry
  | none =>
    let (n, tree) ← k.tree.openFile p.directory path mode
    return ({ k with tree }).addFile ⟨.node n, mode, 0⟩

/-- Gives a process another set of descriptors. -/
def setDescriptors (k : Kernel) (pid : Nat) (d : Descriptors Nat) : Kernel :=
  k.update pid fun p => { p with descriptors := d }

/-! ## The console -/

/-- Adds a note to the diagnostics. -/
def note (k : Kernel) (n : Note) : Kernel := { k with notes := n :: k.notes }

/-- Adds bytes to the output. -/
def emit (k : Kernel) (data : Bytes) : Kernel := { k with output := data :: k.output }

/-- Everything that was written to the console as output. -/
def outputBytes (k : Kernel) : Bytes := k.output.reverse.flatten

/-- The diagnostics on the console, the first one first. -/
def journal (k : Kernel) : List Note := k.notes.reverse

end Kernel

end JobShell.Machine
