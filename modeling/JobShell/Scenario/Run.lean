import JobShell.App
import JobShell.Scenario.Scene
import JobShell.Scenario.Transcript

/-!
# Runs of the program

The program run on a machine from beginning to end, and what can be seen of it afterwards.
-/

namespace JobShell.Scenario

open Machine

/-- How a run of the program ended. -/
inductive Ended where
  | exited (code : Nat)
  | signaled (signal : Signal)
  deriving DecidableEq, Repr

/-- The signals that the program ignores: those that a user sends to what runs in the
foreground, and the one that an unread pipe sends. -/
def ignoredByShell : List Signal := [.int, .quit, .tstp, .pipe]

/-- The exit code of a program that relied on something that was not there. -/
def brokenDown : Nat := 101

/-- Runs the program on a machine. A run that has not come to its end when the patience is over is
killed. -/
def run (setup : Setup) (arguments : List String) (setting : Option String) :
    Ended × Kernel :=
  let input := setup.input.getD []
  let program := App.run Scene.patience arguments setting (Reading.ofBytes input)
  match (Program.run (Kernel.answer Kernel.shellPid) program).run (Kernel.boot setup) with
  | (.ok (.ok code), k) => (.exited code, k)
  | (.ok (.error .stuck), k) => (.signaled .kill, k)
  | (.ok (.error _), k) => (.exited brokenDown, k)
  | (.error s, k) => (.signaled s, k)

end JobShell.Scenario
