import JobShell.Loop
import JobShell.Options
import JobShell.Text.Utf8

/-!
# The program

What the program does from its command line to its exit code: it answers a request for help, or
refuses a wrong command line, or runs the shell on the lines of its input with the chosen level of
logging.
-/

namespace JobShell

namespace Reading

/-- The complaint about input that is not text. -/
def notText : String := "stream did not contain valid UTF-8"

/-- A line without its line feed, and without a carriage return before that. -/
def withoutEnd (cs : List Char) : List Char :=
  let drop (c : Char) (cs : List Char) := if cs.getLast? = some c then cs.dropLast else cs
  drop '\r' (drop '\n' cs)

/-- The reading that the bytes of one line bring. -/
def ofLine (line : List UInt8) : Reading :=
  match Text.decode? line with
  | some s => .line (String.ofList (withoutEnd s.toList))
  | none => .failed notText

/-- The readings of an input, line by line, where `before` is what has been seen of the line,
backwards. The last line may lack its line feed. -/
def ofBytesAfter (before : List UInt8) : List UInt8 → List Reading
  | [] => if before.isEmpty then [] else [ofLine before.reverse]
  | b :: rest =>
    if b = 0x0A then ofLine (b :: before).reverse :: ofBytesAfter [] rest
    else ofBytesAfter (b :: before) rest

/-- The readings of an input. -/
def ofBytes (input : List UInt8) : List Reading := ofBytesAfter [] input

end Reading

namespace Program

/-- The same computation without the events that a level leaves out of the log. -/
def logging {α : Type} (level : Log.Level) : Program α → Program α
  | done a => done a
  | call (.log e) next =>
    if e.isWanted level then call (.log e) fun answer => (next answer).logging level
    else (next ()).logging level
  | call c next => call c fun answer => (next answer).logging level

end Program

namespace App

/-- The name of the program in its last words. -/
def name : String := "psh"

/-- The exit code after all went well. -/
def success : Nat := 0

/-- The exit code after something the shell cannot go on after. -/
def failure : Nat := 1

/-- The exit code after a wrong command line. -/
def misuse : Nat := 2

/-- Writes lines to standard error. -/
def complainAll (lines : List String) : Program Unit :=
  lines.forM fun line => Program.ask (.complain line)

/-- The settings of a shell that was started from the command line. -/
def settings (o : Options) (patience : Nat) : Settings := ⟨o.announce, .children, patience⟩

/-- Runs the shell on the lines of the input. The value is the exit code, if the shell comes to an
end. -/
def interact (settings : Settings) (readings : List Reading) : Program (Except Failure Nat) := do
  match ← (Shell.runLoop settings readings).run .fresh with
  | (.ok (.ok ()), _) => return .ok success
  | (.ok (.error disaster), _) => do
    Program.ask (.complain (name ++ ": " ++ disaster.message))
    return .ok failure
  | (.error e, _) => return .error e

/-- Runs the program; the value is its exit code, if it comes to an end. `setting` is what the
environment says about the level of the log. The program itself waits for as long as it takes:
`patience` only bounds how much of a run is looked at. -/
def run (patience : Nat) (arguments : List String) (setting : Option String)
    (readings : List Reading) : Program (Except Failure Nat) := do
  match Options.parse arguments with
  | .error fault => do
    complainAll fault.lines
    return .ok misuse
  | .ok .help => do
    let _ ← Program.ask (.write Options.helpText)
    return .ok success
  | .ok .version => do
    let _ ← Program.ask (.write Options.versionText)
    return .ok success
  | .ok (.run o) => (interact (settings o patience) readings).logging (.choose o.level setting)

end App

end JobShell
