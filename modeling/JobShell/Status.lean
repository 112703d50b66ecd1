import JobShell.Signal

/-!
# Process statuses

The three statuses that the process table knows, the outcomes that waiting for a child can report,
and how a raw status word of Linux is taken apart into such an outcome.
-/

namespace JobShell

/-- The status of a launched process. -/
inductive Status where
  | running
  | suspended
  | terminated
  deriving DecidableEq, Repr, Inhabited

namespace Status

/-- The word a listing shows. -/
def text : Status → String
  | running => "Running"
  | suspended => "Suspended"
  | terminated => "Terminated"

end Status

/-- What waiting for a child reported. -/
inductive WaitStatus where
  | exited (code : Nat)
  | signaled (signal : Signal) (dumpedCore : Bool)
  | stopped (signal : Signal)
  | tracedEvent (signal : Signal) (event : Nat)
  | tracedCall
  | continued
  | stillAlive
  deriving DecidableEq, Repr, Inhabited

namespace WaitStatus

/-- The status an outcome stands for; none when it says nothing new. -/
def status? : WaitStatus → Option Status
  | stillAlive => none
  | exited _ | signaled _ _ => some .terminated
  | continued => some .running
  | stopped _ | tracedEvent _ _ | tracedCall => some .suspended

/-- A status word taken apart. -/
inductive Decoded where
  | outcome (status : WaitStatus)
  /-- The word names a signal outside 1 to 31. -/
  | unknownSignal
  /-- Linux never reports such a word. -/
  | malformed
  deriving DecidableEq, Repr

/-- `f` of the signal numbered `n`. -/
def Decoded.ofSignal (n : Nat) (f : Signal → WaitStatus) : Decoded :=
  match Signal.ofNumber? n with
  | some s => .outcome (f s)
  | none => .unknownSignal

/-- The signal number that marks a stop at a system call of a traced process. -/
def callTrap : Nat := 0x85

/-- Takes a status word apart. The low seven bits are zero after an exit, hold the number of the
signal that killed the process, or are all ones after a stop; then the second byte is the signal
of the stop, and what stands above it tells a trace event. -/
def decode (raw : Nat) : Decoded :=
  if raw % 0x80 = 0 then
    .outcome (.exited (raw / 0x100 % 0x100))
  else if raw % 0x80 ≠ 0x7F then
    .ofSignal (raw % 0x80) fun s => .signaled s (raw / 0x80 % 2 = 1)
  else if raw % 0x100 = 0x7F then
    if raw / 0x100 % 0x100 = callTrap then
      .outcome .tracedCall
    else if raw / 0x10000 = 0 then
      .ofSignal (raw / 0x100 % 0x100) .stopped
    else
      .ofSignal (raw / 0x100 % 0x100) fun s => .tracedEvent s (raw / 0x10000)
  else if raw = 0xFFFF then
    .outcome .continued
  else
    .malformed

end WaitStatus

end JobShell
