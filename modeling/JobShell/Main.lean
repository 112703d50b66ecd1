import JobShell.Scenario.Run

/-!
# The command line

The program as a command. It has a machine of its own with an empty working directory; its input
is all of standard input, and what its machine has on the console at the end is written out.
-/

namespace JobShell

open Machine Scenario

/-- The machine of the command line: `input` stands on its standard input. -/
def commandSetup (environment : Environment) (input : Bytes) : Setup :=
  ⟨[], [], [], environment, ignoredByShell, [], none, some input⟩

/-- The environment of the command line's machine. -/
def commandEnvironment (setting : Option String) : Environment :=
  [("PATH", "/usr/local/bin:/usr/bin:/bin"), ("LC_ALL", "C")]
    ++ (setting.map fun s => (Log.Level.settingName, s)).toList

/-- The exit code that tells how a run ended; a signal's number is added to 128. -/
def Scenario.Ended.code : Ended → Nat
  | .exited code => code
  | .signaled signal => 128 + signal.number

end JobShell

open JobShell in
/-- Runs the shell on standard input. -/
def main (arguments : List String) : IO UInt32 := do
  let input ← (← IO.getStdin).readBinToEnd
  let setting ← IO.getEnv Log.Level.settingName
  let setup := commandSetup (commandEnvironment setting) input.toList
  let (ended, kernel) := Scenario.run setup arguments setting
  (← IO.getStdout).write ⟨kernel.outputBytes.toArray⟩
  (← IO.getStderr).write ⟨(kernel.journal.flatMap Machine.Note.bytes).toArray⟩
  return UInt32.ofNat ended.code
