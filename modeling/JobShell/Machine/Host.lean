import JobShell.Machine.Schedule
import JobShell.System

/-!
# The shell on the machine

How the machine answers the calls of the shell. The shell is one of its processes, moved from
outside; the others have their turns while it waits. A signal that ends the shell ends the answers.
-/

namespace JobShell.Machine

/-- A computation of the shell's process, which a signal may end. -/
abbrev Guided (α : Type) : Type := ExceptT Signal (StateM Kernel) α

namespace Kernel

/-- What waiting for a child can bring. -/
inductive Awaited where
  | status (status : WaitStatus)
  | failed (cause : Errno)
  /-- The shell itself has ended. -/
  | over (signal : Signal)

/-- The children that a process number stands for: one, or any. -/
def isMeant (pid : Pid) (p : Process) : Bool :=
  pid.number = -1 || pid.number = 0 || (p.pid : Int) = pid.number

/-- What a status word says. -/
def statusOfWord (word : Nat) : WaitStatus :=
  match WaitStatus.decode word with
  | .outcome status => status
  | _ => .exited 0

/-- News of one child, and the machine after it has been told: its end, a stop and, if that is
wanted, a resumption. -/
def newsOf? (k : Kernel) (mode : WaitMode) (p : Process) : Option (WaitStatus × Kernel) :=
  match p.life, p.news with
  | .ended word, _ => some (statusOfWord word, k.forget p.pid)
  | _, some (.stopped s) => some (.stopped s, k.update p.pid fun p => { p with news := none })
  | _, some .resumed =>
    if mode = .poll then some (.continued, k.update p.pid fun p => { p with news := none })
    else none
  | _, none => none

/-- The signal that has ended a process. -/
def endingSignal? (p : Process) : Option Signal :=
  match p.life with
  | .ended word => Signal.ofNumber? (word % 0x80)
  | _ => none

/-- What the shell finds when it looks for news of a child; nothing if there is none yet. -/
def lookFor (shell : Nat) (pid : Pid) (mode : WaitMode) (k : Kernel) :
    Option (Awaited × Kernel) :=
  match k.process? shell with
  | none => none
  | some me =>
    match endingSignal? me with
    | some s => some (.over s, k)
    | none =>
      if me.isStopped then
        none
      else
        let children := (k.childrenOf shell).filter (isMeant pid)
        match children.findSome? (k.newsOf? mode) with
        | some (status, k) => some (.status status, k)
        | none =>
          if children.isEmpty then some (.failed .noChild, k)
          else if mode = .poll then some (.status .stillAlive, k)
          else if !me.caught.isEmpty then
            some (.failed .interrupted, k.update shell fun p => { p with caught := [] })
          else none

/-- Waits for a child. Where nothing can ever happen the wait is broken off. -/
def waitFor (shell : Nat) (pid : Pid) (mode : WaitMode) : Guided (Except Errno WaitStatus) :=
  fun k =>
    let k := k.update shell fun p => { p with caught := [] }
    let found := match mode with
      | .poll => (lookFor shell pid mode k, k)
      | .block => k.runUntil (lookFor shell pid mode) none patience
    match found with
    | (some (.status status, k), _) => (.ok (.ok status), k)
    | (some (.failed e, k), _) => (.ok (.error e), k)
    | (some (.over s, k), _) => (.error s, k)
    | (none, k) => (.ok (.error .interrupted), k)

/-- Carries out a system call of the shell that is always answered at once. -/
def ownCall (shell : Nat) (c : Sys) (otherwise : c.Answer) : Guided c.Answer := fun k =>
  match k.process? shell with
  | none => (.ok otherwise, k)
  | some me =>
    match k.perform me c with
    | .answer a k => (.ok a, k)
    | .blocked k => (.ok otherwise, k)
    | .gone k => (.error .pipe, k)

/-- Makes a pipe for the shell. -/
def ownPipe (shell : Nat) : Guided (Except Errno Pipe) := fun k =>
  match k.process? shell with
  | none => (.ok (.error .noProcess), k)
  | some me =>
    match k.makePipe me true with
    | .ok ((readEnd, writeEnd), k) => (.ok (.ok ⟨readEnd, writeEnd⟩), k)
    | .error e => (.ok (.error e), k)

/-- Makes a process for a stage. -/
def ownFork (shell : Nat) (launch : Launch) : Guided (Except Errno Pid) := fun k =>
  match k.process? shell with
  | none => (.ok (.error .noProcess), k)
  | some me =>
    let (pid, k) := k.spawn me (.call (.enter launch) fun _ => .exit failureCode)
    (.ok (.ok ⟨pid⟩), k)

/-- How the machine answers the calls of the shell. It knows of no outside observer. -/
def answer (shell : Nat) : (c : Call) → Guided c.Answer
  | .makePipe => ownPipe shell
  | .fork launch => ownFork shell launch
  | .closePipe pipe => do
    let _ ← ownCall shell (.close pipe.readEnd) (.ok ())
    let _ ← ownCall shell (.close pipe.writeEnd) (.ok ())
    return ()
  | .wait pid mode => waitFor shell pid mode
  | .report _ => return none
  | .kill pid signal =>
    ownCall shell (.kill pid.number (some signal)) (.error .noProcess)
  | .changeDirectory path => ownCall shell (.changeDirectory path) (.error .noEntry)
  | .currentDirectory => ownCall shell .currentDirectory (.error .noEntry)
  | .write text => do
    match ← ownCall shell (.write Descriptors.standardOutput (Bytes.ofString text))
        (.error .badDescriptor) with
    | .ok _ => return .ok ()
    | .error e => return .error e
  | .flush => return .ok ()
  | .complain line => fun k => (.ok (), k.note (.own line))
  | .log event => fun k => (.ok (), k.note (.event event))

end Kernel

end JobShell.Machine
