import JobShell.Machine.FileTree
import JobShell.Signal
import JobShell.System

/-!
# Tasks

What a process of the machine does: it ends, or it makes a system call and goes on with the
answer, or it splits in two. A `Task` is the whole future of a process. An `Act` is a piece of it
that yields a value for the rest; acts are written one after the other, and repeated with a bound
that no process lives to see.
-/

namespace JobShell.Machine

/-- What a process does when a signal reaches it. -/
inductive Disposition where
  /-- The default effect of the signal. -/
  | default
  /-- Nothing. -/
  | ignore
  /-- The process is told. -/
  | handle
  deriving DecidableEq, Repr

/-- The kind of a file. -/
inductive FileKind where
  | directory
  | regular
  | device
  deriving DecidableEq, Repr

/-- What can be asked about a file. -/
structure FileStatus where
  kind : FileKind
  /-- A number that no other file has. -/
  identity : Nat
  size : Nat
  executable : Bool
  deriving DecidableEq, Repr

/-- The variables that a program is started with. -/
abbrev Environment : Type := List (String × String)

/-- A system call of a process. -/
inductive Sys where
  /-- Read at most `count` bytes. -/
  | read (fd count : Nat)
  /-- Write bytes; the answer is how many. -/
  | write (fd : Nat) (data : Bytes)
  | openFile (path : String) (mode : FileTree.OpenMode)
  | close (fd : Nat)
  /-- Make `target` refer to what `source` refers to. -/
  | duplicate (source target : Nat)
  /-- Make the lowest free descriptor from `least` on refer to what `source` refers to; it is
  closed when the process becomes another program. -/
  | setAside (source least : Nat)
  | makePipe
  /-- Wait for a child, or any; the answer is its number and its status word. -/
  | await (pid : Option Nat) (block : Bool)
  /-- Send a signal, or only find out whether one could be sent. -/
  | kill (pid : Int) (signal : Option Signal)
  /-- Do nothing for a number of microseconds. -/
  | sleep (duration : Nat)
  | ownPid
  | parentPid
  | changeDirectory (path : String)
  | currentDirectory
  | status (path : String)
  | list (path : String)
  | removeFile (path : String)
  | makeDirectory (path : String)
  | removeDirectory (path : String)
  | rename (source target : String)
  | setExecutable (path : String) (value : Bool)
  | setDisposition (signal : Signal) (disposition : Disposition)
  /-- The handled signals that have come since this was last asked. -/
  | takeCaught
  /-- Become another program. There is an answer only if that fails. -/
  | exec (path : String) (arguments : List String) (environment : Environment)
  /-- Become the program of a stage. There is no answer. -/
  | enter (launch : Launch)
  /-- Let others go first. -/
  | yield

/-- The type of the answer to a system call. -/
@[reducible] def Sys.Answer : Sys → Type
  | read _ _ => Except Errno Bytes
  | write _ _ => Except Errno Nat
  | openFile _ _ => Except Errno Nat
  | close _ => Except Errno Unit
  | duplicate _ _ => Except Errno Unit
  | setAside _ _ => Except Errno Nat
  | makePipe => Except Errno (Nat × Nat)
  | await _ _ => Except Errno (Option (Nat × Nat))
  | kill _ _ => Except Errno Unit
  | sleep _ => Unit
  | ownPid => Nat
  | parentPid => Nat
  | changeDirectory _ => Except Errno Unit
  | currentDirectory => Except Errno String
  | status _ => Except Errno FileStatus
  | list _ => Except Errno (List String)
  | removeFile _ => Except Errno Unit
  | makeDirectory _ => Except Errno Unit
  | removeDirectory _ => Except Errno Unit
  | rename _ _ => Except Errno Unit
  | setExecutable _ _ => Except Errno Unit
  | setDisposition _ _ => Unit
  | takeCaught => List Signal
  | exec _ _ _ => Errno
  | enter _ => Unit
  | yield => Unit

/-- The future of a process. -/
inductive Task where
  | exit (code : Nat)
  | call (c : Sys) (next : c.Answer → Task)
  /-- A child begins that does `child`; the process goes on with its number. -/
  | fork (child : Task) (next : Except Errno Nat → Task)

instance : Inhabited Task := ⟨.exit 0⟩

/-- A piece of a task that yields a value for the rest. -/
def Act (α : Type) : Type := (α → Task) → Task

namespace Act

variable {α β σ : Type}

instance : Monad Act where
  pure a := fun next => next a
  bind x f := fun next => x fun a => f a next

/-- The task that an act makes when its value is the code to end with. -/
def task (x : Act Nat) : Task := x Task.exit

/-- Makes a system call. -/
def sys (c : Sys) : Act c.Answer := fun next => .call c next

/-- Ends the process. -/
def exit (code : Nat) : Act α := fun _ => .exit code

/-- Begins a child. -/
def fork (child : Act Nat) : Act (Except Errno Nat) := fun next => .fork child.task next

/-- More steps than any process takes. -/
def bound : Nat := 1000000000000

/-- Repeats `body` until it yields a value, at most `fuel` times. -/
def iterate (body : σ → Act (σ ⊕ α)) (giveUp : Act α) : Nat → σ → Act α
  | 0, _ => giveUp
  | fuel + 1, s => do
    match ← body s with
    | .inl s => iterate body giveUp fuel s
    | .inr a => pure a

/-- Repeats `body` until it yields a value. -/
def loop (s : σ) (body : σ → Act (σ ⊕ α)) : Act α := iterate body (exit 255) bound s

/-- How many bytes a program reads at a time. -/
def blockSize : Nat := 65536

/-- Reads up to the end of the input. -/
def readAll (fd : Nat) : Act (Except Errno Bytes) :=
  loop ([] : List Bytes) fun blocks => do
    match ← sys (.read fd blockSize) with
    | .ok [] => return .inr (.ok blocks.reverse.flatten)
    | .ok data => return .inl (data :: blocks)
    | .error e => return .inr (.error e)

/-- Writes all of `data`. -/
def writeAll (fd : Nat) (data : Bytes) : Act (Except Errno Unit) :=
  loop data fun data =>
    if data.isEmpty then
      return .inr (.ok ())
    else do
      match ← sys (.write fd data) with
      | .ok count => return .inl (data.drop count)
      | .error e => return .inr (.error e)

/-- Writes a text to a descriptor; a failure is not noticed. -/
def say (fd : Nat) (text : String) : Act Unit := do
  let _ ← writeAll fd (Text.utf8 text.toList)
  return ()

/-- Writes a line to standard error. -/
def complain (line : String) : Act Unit := say 2 (line ++ "\n")

end Act

end JobShell.Machine
