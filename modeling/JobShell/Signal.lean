/-!
# Signals

The standard signals of Linux, numbered 1 to 31.
-/

namespace JobShell

/-- A standard signal. -/
inductive Signal where
  | hup | int | quit | ill | trap | abrt | bus | fpe | kill | usr1 | segv | usr2 | pipe | alrm
  | term | stkflt | chld | cont | stop | tstp | ttin | ttou | urg | xcpu | xfsz | vtalrm | prof
  | winch | poll | pwr | sys
  deriving DecidableEq, Repr, Inhabited

namespace Signal

/-- The standard signals in the order of their numbers, which start at 1. -/
def all : List Signal :=
  [hup, int, quit, ill, trap, abrt, bus, fpe, kill, usr1, segv, usr2, pipe, alrm, term, stkflt,
   chld, cont, stop, tstp, ttin, ttou, urg, xcpu, xfsz, vtalrm, prof, winch, poll, pwr, sys]

/-- The number of a signal. -/
def number (s : Signal) : Nat := all.idxOf s + 1

/-- The signal with a number; only 1 to 31 have one. -/
def ofNumber? (n : Nat) : Option Signal := if n = 0 then none else all[n - 1]?

/-- The name of a signal without its `SIG`. -/
def shortName : Signal → String
  | hup => "HUP" | int => "INT" | quit => "QUIT" | ill => "ILL" | trap => "TRAP" | abrt => "ABRT"
  | bus => "BUS" | fpe => "FPE" | kill => "KILL" | usr1 => "USR1" | segv => "SEGV"
  | usr2 => "USR2" | pipe => "PIPE" | alrm => "ALRM" | term => "TERM" | stkflt => "STKFLT"
  | chld => "CHLD" | cont => "CONT" | stop => "STOP" | tstp => "TSTP" | ttin => "TTIN"
  | ttou => "TTOU" | urg => "URG" | xcpu => "XCPU" | xfsz => "XFSZ" | vtalrm => "VTALRM"
  | prof => "PROF" | winch => "WINCH" | poll => "IO" | pwr => "PWR" | sys => "SYS"

/-- The name of a signal, `SIGINT`. -/
def name (s : Signal) : String := "SIG" ++ s.shortName

/-- The signal that a word names: its number, or its name in any case, with or without `SIG`. -/
def ofWord? (word : String) : Option Signal :=
  match word.toNat? with
  | some n => ofNumber? n
  | none => all.find? fun s => s.shortName = word.toUpper || s.name = word.toUpper

theorem ofNumber?_number (s : Signal) : ofNumber? s.number = some s := by cases s <;> rfl

/-- What a process does with a signal that it neither ignores nor handles. -/
inductive Effect where
  | terminate | stop | resume | nothing
  deriving DecidableEq, Repr

/-- The default effect of each signal. -/
def effect : Signal → Effect
  | stop | tstp | ttin | ttou => .stop
  | cont => .resume
  | chld | urg | winch => .nothing
  | _ => .terminate

end Signal

end JobShell
