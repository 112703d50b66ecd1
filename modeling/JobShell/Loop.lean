import JobShell.Line

/-!
# The read-eval loop

The shell reads lines until it is told to quit, the input ends, or something happens that it
cannot go on after. Any other error is printed, and the next line is read.
-/

namespace JobShell

/-- What reading a line can bring. The end of the input is the end of the list of readings. -/
inductive Reading where
  | line (text : String)
  /-- The user interrupted the reading. -/
  | interrupted
  /-- The input could not be read. -/
  | failed (message : String)
  deriving DecidableEq, Repr

/-- What the shell cannot go on after. -/
inductive Disaster where
  /-- The working directory cannot be named. -/
  | directory (cause : Errno)
  /-- The input could not be read. -/
  | reading (message : String)
  /-- An error that is fatal. -/
  | fatal (cause : ShellError)
  deriving DecidableEq, Repr

namespace Disaster

/-- The wording of a disaster: what happened, then each thing that was behind it. -/
def message : Disaster → String
  | directory e => "getcwd failed: " ++ e.numbered
  | reading text => text ++ ": " ++ text
  | fatal e =>
    match e with
    | .launch cause =>
      match cause.fatalCause? with
      | some errno => e.message ++ ": " ++ errno.symbolic
      | none => e.message
    | _ => e.message

end Disaster

/-- How the loop ends. -/
abbrev Ending : Type := Except Disaster Unit

namespace Shell

/-- Processes a line of the loop. The answer is how the loop ends, if it does. -/
def processReading (settings : Settings) (text : String) : Shell (Option Ending) := do
  try
    match ← processLine settings text with
    | .proceed => return none
    | .quit => return some (.ok ())
  catch
    | .error e =>
      if e.isFatal then
        return some (.error (.fatal e))
      else do
        complain e.message
        return none
    | other => throw other

/-- Reads and processes lines until the loop ends. -/
def loop (settings : Settings) (readings : List Reading) : Shell Ending := do
  match ← ask .currentDirectory with
  | .error e => return .error (.directory e)
  | .ok _ =>
    match readings with
    | [] => do
      modify Session.shutdown
      return .ok ()
    | .interrupted :: rest => loop settings rest
    | .failed message :: _ => return .error (.reading message)
    | .line text :: rest =>
      match ← processReading settings text with
      | some ending => return ending
      | none => loop settings rest

/-- Runs the loop, and takes leave if it ends well. -/
def runLoop (settings : Settings) (readings : List Reading) : Shell Ending := do
  let ending ← loop settings readings
  if let .ok () := ending then
    log .leaving
  return ending

end Shell

end JobShell
