import JobShell.Signal
import JobShell.Status

/-!
# Control commands

The three commands that act on a running process: each has a keyword, sends a signal, and predicts
the status that the process will be found in.
-/

namespace JobShell

/-- What a control command does to a process. -/
inductive Control where
  /-- Stops it. -/
  | halt
  /-- Lets it go on. -/
  | wakeup
  /-- Interrupts it. -/
  | ice
  deriving DecidableEq, Repr

namespace Control

/-- The keyword of a control command. -/
def keyword : Control → String
  | halt => "halt"
  | wakeup => "wakeup"
  | ice => "ice"

/-- The control command with a keyword. -/
def ofKeyword? : String → Option Control
  | "halt" => some halt
  | "wakeup" => some wakeup
  | "ice" => some ice
  | _ => none

/-- The signal that a control command sends. -/
def signal : Control → Signal
  | halt => .stop
  | wakeup => .cont
  | ice => .int

/-- The status that the table shows until the process has been looked at again. -/
def predicted : Control → Status
  | halt => .suspended
  | wakeup => .running
  | ice => .terminated

/-- The name of a control command in a log line. -/
def label : Control → String
  | halt => "Halt"
  | wakeup => "Wakeup"
  | ice => "Ice"

theorem ofKeyword?_eq_some_iff {s : String} {c : Control} :
    ofKeyword? s = some c ↔ s = c.keyword := by
  constructor
  · intro h; unfold ofKeyword? at h; split at h <;> cases h <;> rfl
  · rintro rfl; cases c <;> rfl

end Control

end JobShell
