import JobShell.Log
import JobShell.Status

/-!
# Calls to the operating system

Everything that the shell asks of the world outside it is a `Call`, which has an `Answer`. A
`Program` is what the shell does between calls: it is done, or it makes a call and goes on with
the answer. How calls are answered is not part of a program; `Program.run` takes any way of
answering them, in any monad.
-/

namespace JobShell

/-- A pipe, by the descriptors of its two ends. -/
structure Pipe where
  readEnd : Nat
  writeEnd : Nat
  deriving DecidableEq, Repr, Inhabited

/-- What a new process is made for. -/
structure Launch where
  stage : Stage
  role : Role
  /-- The pipe to the other stage. -/
  pipe : Option Pipe
  /-- Whether the process says what it is about to run. -/
  announce : Bool
  deriving DecidableEq, Repr

/-- How long waiting for a child may take, and what ends it. -/
inductive WaitMode where
  /-- Answers at once; the end of the child, a stop and a resumption are news. -/
  | poll
  /-- Waits until there is news; the end of the child and a stop are. -/
  | block
  deriving DecidableEq, Repr

/-- A request to the operating system, or to the user's terminal. -/
inductive Call where
  /-- Make a pipe; it is closed in every program that a process becomes. -/
  | makePipe
  /-- Make a process that runs a stage. -/
  | fork (launch : Launch)
  /-- Close both ends of a pipe in the shell. -/
  | closePipe (pipe : Pipe)
  /-- Wait for a child. -/
  | wait (pid : Pid) (mode : WaitMode)
  /-- Ask an outside observer for news of a process. -/
  | report (pid : Pid)
  /-- Send a signal. -/
  | kill (pid : Pid) (signal : Signal)
  /-- Change the working directory. -/
  | changeDirectory (path : String)
  /-- Find out the working directory. -/
  | currentDirectory
  /-- Write to standard output. -/
  | write (text : String)
  /-- Hand on what has been written. -/
  | flush
  /-- Write a line to standard error. -/
  | complain (line : String)
  /-- Log an event. -/
  | log (event : Log.Event)
  deriving DecidableEq, Repr

/-- The type of the answer to a call. -/
@[reducible] def Call.Answer : Call → Type
  | makePipe => Except Errno Pipe
  | fork _ => Except Errno Pid
  | closePipe _ => Unit
  | wait _ _ => Except Errno WaitStatus
  | report _ => Option Status
  | kill _ _ => Except Errno Unit
  | changeDirectory _ => Except Errno Unit
  | currentDirectory => Except Errno String
  | write _ => Except Errno Unit
  | flush => Except Errno Unit
  | complain _ => Unit
  | log _ => Unit

/-- A computation that makes calls and ends with a value. -/
inductive Program (α : Type) : Type where
  | done (a : α)
  | call (c : Call) (next : c.Answer → Program α)

namespace Program

variable {α β γ : Type}

/-- Goes on with `f` where `p` is done. -/
def bind (p : Program α) (f : α → Program β) : Program β :=
  match p with
  | done a => f a
  | call c next => call c fun answer => (next answer).bind f

instance : Monad Program where
  pure := done
  bind := Program.bind

/-- Makes a call and is done with the answer. -/
def ask (c : Call) : Program c.Answer := call c done

/-- Carries a program out, answering its calls by `handle`. -/
def run {m : Type → Type} [Monad m] (handle : (c : Call) → m c.Answer) : Program α → m α
  | done a => pure a
  | call c next => do
    let answer ← handle c
    run handle (next answer)

@[simp] theorem done_bind (a : α) (f : α → Program β) : (done a >>= f) = f a := rfl

@[simp] theorem call_bind (c : Call) (next : c.Answer → Program α) (f : α → Program β) :
    (call c next >>= f) = call c fun answer => next answer >>= f := rfl

@[simp] theorem pure_eq_done (a : α) : (pure a : Program α) = done a := rfl

theorem bind_assoc (p : Program α) (f : α → Program β) (g : β → Program γ) :
    (p >>= f) >>= g = p >>= fun a => f a >>= g := by
  induction p with
  | done a => rfl
  | call c next ih => simp only [call_bind, ih]

theorem bind_done (p : Program α) : p >>= done = p := by
  induction p with
  | done a => rfl
  | call c next ih => simp only [call_bind, ih]

instance : LawfulMonad Program :=
  LawfulMonad.mk' Program bind_done (fun _ _ => rfl) bind_assoc

/-- Running a sequence is running its parts in sequence. -/
theorem run_bind {m : Type → Type} [Monad m] [LawfulMonad m] (handle : (c : Call) → m c.Answer)
    (p : Program α) (f : α → Program β) :
    run handle (p >>= f) = (do let a ← run handle p; run handle (f a)) := by
  induction p with
  | done a => simp [run]
  | call c next ih => simp [run, ih]

end Program

end JobShell
