import JobShell.Descriptors
import JobShell.Error
import JobShell.System

/-!
# Wiring a stage

What a new process does to its descriptors before it becomes the program of its stage: it opens
the files of its redirections and puts them in the place of standard input and output, takes its
end of the pipe, and lets go of both ends of the pipe otherwise. How a file is opened is left
open, in any monad.
-/

namespace JobShell

/-- The way data flows through a redirection. -/
inductive Direction where
  | input
  | output
  deriving DecidableEq, Repr

namespace Direction

/-- The descriptor that a redirection replaces. -/
def standard : Direction → Nat
  | input => Descriptors.standardInput
  | output => Descriptors.standardOutput

/-- The word for a direction. -/
def word : Direction → String
  | input => "input"
  | output => "output"

end Direction

/-- Why a new process does not become the program of its stage. -/
inductive WiringFault where
  /-- The file of a redirection cannot be opened. -/
  | unopened (direction : Direction) (path : String) (cause : FileError)
  /-- A descriptor cannot be put in the place of another. -/
  | unduplicated (cause : Errno)
  deriving DecidableEq, Repr

/-- The wording of a fault. -/
def WiringFault.message : WiringFault → String
  | unopened direction path cause =>
    "failed to open " ++ direction.word ++ " file '" ++ path ++ "': " ++ cause.message
  | unduplicated cause => "dup2 failed: " ++ cause.symbolic

namespace Wiring

variable {δ : Type} {m : Type → Type} [Monad m]

/-- How the file of a redirection is opened. -/
abbrev Opener (δ : Type) (m : Type → Type) : Type := Direction → String → m (Except FileError δ)

/-- Puts what `source` refers to in the place of `target`. -/
def replace (d : Descriptors δ) (source target : Nat) : Except WiringFault (Descriptors δ) :=
  match d.duplicate source target with
  | .ok d => .ok d
  | .error e => .error (.unduplicated e)

/-- Opens the file of a redirection and puts it in the place of the standard descriptor. The file
takes the lowest free descriptor for a moment. -/
def redirect (openFile : Opener δ m) (limit : Option Nat) (direction : Direction) (path : String)
    (d : Descriptors δ) : m (Except WiringFault (Descriptors δ)) := do
  if path.toList.contains '\x00' then
    return .error (.unopened direction path .nulInPath)
  match d.free? limit 0 with
  | .error e => return .error (.unopened direction path (.system e))
  | .ok fd =>
    match ← openFile direction path with
    | .error e => return .error (.unopened direction path e)
    | .ok file =>
      match replace (d.set fd ⟨file, true⟩) fd direction.standard with
      | .error e => return .error e
      | .ok d => return .ok (d.close fd)

/-- Carries out a redirection if there is one. -/
def redirectIf (openFile : Opener δ m) (limit : Option Nat) (direction : Direction)
    (path : Option String) (d : Descriptors δ) : m (Except WiringFault (Descriptors δ)) :=
  match path with
  | some path => redirect openFile limit direction path d
  | none => pure (.ok d)

/-- Puts an end of the pipe in its place, as the role asks for. -/
def takeEnd (role : Role) (pipe : Pipe) (d : Descriptors δ) :
    Except WiringFault (Descriptors δ) :=
  match role with
  | .alone => .ok d
  | .pipeWriter => replace d pipe.writeEnd Descriptors.standardOutput
  | .pipeReader => replace d pipe.readEnd Descriptors.standardInput

/-- Takes an end of the pipe and lets go of both ends otherwise. -/
def joinPipe (role : Role) (pipe : Option Pipe) (d : Descriptors δ) :
    Except WiringFault (Descriptors δ) :=
  match pipe with
  | none => .ok d
  | some pipe =>
    match takeEnd role pipe d with
    | .error e => .error e
    | .ok d => .ok ((d.close pipe.readEnd).close pipe.writeEnd)

/-- The descriptors that the program of a stage starts with, made out of those that the new
process got from the shell. -/
def wire (openFile : Opener δ m) (limit : Option Nat) (launch : Launch) (d : Descriptors δ) :
    m (Except WiringFault (Descriptors δ)) := do
  match ← redirectIf openFile limit .input launch.stage.input d with
  | .error e => return .error e
  | .ok d =>
    match ← redirectIf openFile limit .output launch.stage.output d with
    | .error e => return .error e
    | .ok d =>
      match joinPipe launch.role launch.pipe d with
      | .error e => return .error e
      | .ok d => return .ok d.afterExec

end Wiring

end JobShell
