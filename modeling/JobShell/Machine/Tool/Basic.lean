import JobShell.Machine.Lines
import JobShell.Machine.Task

/-!
# Tools

A tool is a program of the machine: given its arguments and environment it does its work and ends
with a code. Here is what most tools share: the reading of options, the opening of operands, and
the wording of complaints.
-/

namespace JobShell.Machine

/-- How a tool was called. -/
structure Invocation where
  name : String
  arguments : List String
  environment : Environment

/-- A program of the machine; the value is the code it ends with. -/
abbrev Tool : Type := Invocation → Act Nat

namespace Tool

open Act

/-- Writes to standard output. A failure ends the tool. -/
def print (i : Invocation) (data : Bytes) : Act Unit := do
  match ← writeAll 1 data with
  | .ok () => return ()
  | .error e =>
    complain (i.name ++ ": write error: " ++ e.wording)
    exit 1

/-- Writes a text to standard output. -/
def printText (i : Invocation) (s : String) : Act Unit := print i (Bytes.ofString s)

/-- Complains in the name of the tool. -/
def warn (i : Invocation) (message : String) : Act Unit := complain (i.name ++ ": " ++ message)

/-- Complains about a wrong call and ends the tool. -/
def refuse {α : Type} (i : Invocation) (code : Nat) (message : String) : Act α := do
  warn i message
  complain ("Try '" ++ i.name ++ " --help' for more information.")
  exit code

/-- The options and operands of a call. -/
structure Parsed where
  options : List (Char × String)
  operands : List String

namespace Parsed

/-- Whether an option was given. -/
def has (p : Parsed) (c : Char) : Bool := p.options.any (·.1 = c)

/-- The last value given with an option. -/
def value? (p : Parsed) (c : Char) : Option String :=
  (p.options.reverse.find? (·.1 = c)).map Prod.snd

/-- All values given with an option. -/
def values (p : Parsed) (c : Char) : List String :=
  (p.options.filter (·.1 = c)).map Prod.snd

end Parsed

/-- Which letters are options: those without a value, and those with one. -/
structure Letters where
  plain : List Char
  valued : List Char
  /-- Whether operands end the options. -/
  strict : Bool

/-- What is wrong with the options of a call. -/
inductive Misuse where
  | unknownLetter (c : Char)
  | unknownWord (argument : String)
  | missingValue (c : Char)

/-- Reads the letters of one argument. The value of a letter is the rest of the argument or, if
nothing is left, the next argument. -/
def readLetters (l : Letters) (next : List String) :
    List Char → Except Misuse (List (Char × String) × List String)
  | [] => .ok ([], next)
  | c :: cs =>
    if l.valued.contains c then
      match cs, next with
      | _ :: _, _ => .ok ([(c, String.ofList cs)], next)
      | [], value :: rest => .ok ([(c, value)], rest)
      | [], [] => .error (.missingValue c)
    else if l.plain.contains c then do
      let (more, next) ← readLetters l next cs
      return ((c, "") :: more, next)
    else
      .error (.unknownLetter c)

/-- Reads options and operands. -/
def readArguments (l : Letters) : Nat → List String → Except Misuse Parsed
  | 0, _ => .ok ⟨[], []⟩
  | _, [] => .ok ⟨[], []⟩
  | fuel + 1, argument :: rest => do
    match argument.toList with
    | ['-', '-'] => return ⟨[], rest⟩
    | '-' :: '-' :: _ => throw (.unknownWord argument)
    | '-' :: c :: cs => do
      let (options, rest) ← readLetters l rest (c :: cs)
      let more ← readArguments l fuel rest
      return { more with options := options ++ more.options }
    | _ =>
      if l.strict then
        return ⟨[], argument :: rest⟩
      else
        let more ← readArguments l fuel rest
        return { more with operands := argument :: more.operands }

/-- The options and operands of a call; a wrong call ends the tool. -/
def parsed (i : Invocation) (l : Letters) (code : Nat) : Act Parsed := do
  match readArguments l (i.arguments.length + 1) i.arguments with
  | .ok p => return p
  | .error (.unknownLetter c) =>
    refuse i code ("invalid option -- '" ++ String.singleton c ++ "'")
  | .error (.unknownWord argument) => refuse i code ("unrecognized option '" ++ argument ++ "'")
  | .error (.missingValue c) =>
    refuse i code ("option requires an argument -- '" ++ String.singleton c ++ "'")

/-- The letters of options that take no value. -/
def Letters.ofPlain (s : String) : Letters := ⟨s.toList, [], false⟩

/-- Opens an operand for reading; a dash is standard input. -/
def openOperand (operand : String) : Act (Except Errno Nat) := do
  if operand = "-" then
    return .ok 0
  else
    sys (.openFile operand .reading)

/-- Closes what `openOperand` opened. -/
def closeOperand (fd : Nat) : Act Unit := do
  if fd ≠ 0 then
    let _ ← sys (.close fd)
  return ()

/-- All bytes of an operand. -/
def contentOf (operand : String) : Act (Except Errno Bytes) := do
  match ← openOperand operand with
  | .error e => return .error e
  | .ok fd =>
    let data ← readAll fd
    closeOperand fd
    return data

/-- The operands of a tool that reads standard input when it has none. -/
def inputs (operands : List String) : List String := if operands.isEmpty then ["-"] else operands

/-- The contents of the operands of a tool. Complaints about those that cannot be read are worded
by `wording`; the flag says whether there were none. -/
def contents (i : Invocation) (wording : String → Errno → String) (operands : List String) :
    Act (List (String × Bytes) × Bool) := do
  let mut found := []
  let mut good := true
  for operand in inputs operands do
    match ← contentOf operand with
    | .ok data => found := (operand, data) :: found
    | .error e =>
      warn i (wording operand e)
      good := false
  return (found.reverse, good)

/-- The usual complaint about an operand. -/
def usualWording (operand : String) (e : Errno) : String := operand ++ ": " ++ e.wording

/-- The code of a tool that did or did not succeed. -/
def codeOf (good : Bool) : Nat := if good then 0 else 1

/-- The value of a decimal number, perhaps with a minus sign. -/
def integer? (s : String) : Option Int :=
  match s.toList with
  | '-' :: cs => (Pid.digits? cs).map fun n => -(n : Int)
  | '+' :: cs => (Pid.digits? cs).map Int.ofNat
  | cs => (Pid.digits? cs).map Int.ofNat

/-- A text filled up with spaces on its left. -/
def padLeft (width : Nat) (s : String) : String :=
  String.ofList (List.replicate (width - s.length) ' ') ++ s

/-- A text filled up with spaces on its right. -/
def padRight (width : Nat) (s : String) : String :=
  s ++ String.ofList (List.replicate (width - s.length) ' ')

end Tool

end JobShell.Machine
