import JobShell.Machine.Lines
import JobShell.Machine.Task
import JobShell.Script.Parser
import JobShell.Script.Pattern

/-!
# What a script computes with

The variables, arguments and traps of a running script, and the computations on them: they make
system calls, change the state, and may leave the statement they are in.
-/

namespace JobShell.Script

open Machine

/-- How a statement is left before its end. -/
inductive Leave where
  | exit (code : Nat)
  /-- After a failure that has been told. -/
  | broken
  /-- Out of a function or a sourced file. -/
  | return (code : Nat)
  /-- Out of some of the loops around. -/
  | leaveLoops (count : Nat)
  /-- To the next turn of one of the loops around. -/
  | nextTurn (count : Nat)

/-- What a variable was before a function made it one of its own. -/
structure Shadowed where
  name : String
  value : Option String
  isExported : Bool

/-- The state of a running script. -/
structure State where
  /-- The name that the script goes by. -/
  name : String
  arguments : List String
  /-- The variables, with their values. -/
  bindings : List (String × String)
  /-- The variables that programs get to see. -/
  exported : List String
  /-- The variables of the function around, if there is one: what they were before. -/
  shadowed : Option (List Shadowed)
  functions : List (String × Statement)
  pid : Nat
  parent : Nat
  /-- The code of the last statement. -/
  status : Nat
  /-- The code of the last script whose output was put into a word. -/
  outputStatus : Nat
  /-- The number of the line that is being carried out. -/
  line : Nat
  /-- The last process in the background. -/
  background : Option Nat
  /-- What is done when a signal comes, or at the end. -/
  traps : List (String × String)
  /-- The signals that have come and have not been seen to. -/
  noticed : List Signal
  /-- How many loops are around. -/
  loops : Nat
  /-- Whether the first failure ends the script. -/
  exitsOnFailure : Bool
  /-- How many statements are around whose failure only answers a question. -/
  questions : Nat

/-- A computation of a script. -/
abbrev Interp (α : Type) : Type := ExceptT Leave (StateT State Act) α

namespace Interp

/-- Carries out a piece of a task. -/
def act {α : Type} (x : Act α) : Interp α := ExceptT.lift (StateT.lift x)

/-- Makes a system call. -/
def sys (c : Sys) : Interp c.Answer := act (Act.sys c)

/-- Ends the script. -/
def exit {α : Type} (code : Nat) : Interp α := throw (.exit code)

/-- The code after a wrong use. -/
def misuse : Nat := 2

/-- Complains in the name of the script. -/
def complain (message : String) : Interp Unit := do
  let s ← get
  act (Act.complain (s.name ++ ": " ++ toString s.line ++ ": " ++ message))

/-- Complains and breaks off. -/
def die {α : Type} (message : String) : Interp α := do
  complain message
  throw .broken

/-- The code that a computation ends with. -/
def codeOf (result : Except Leave Nat) (s : State) : Nat :=
  match result with
  | .ok code | .error (.exit code) | .error (.return code) => code
  | .error .broken => misuse
  | .error _ => s.status

/-! ## Variables -/

/-- The value of a variable. -/
def valueOf? (name : String) : Interp (Option String) := do
  let s ← get
  match name with
  | "#" => return some (toString s.arguments.length)
  | "?" => return some (toString s.status)
  | "$" => return some (toString s.pid)
  | "!" => return s.background.map toString
  | "0" => return some s.name
  | "-" => return some ""
  | "@" | "*" => return if s.arguments.isEmpty then none else some (" ".intercalate s.arguments)
  | _ =>
    match name.toNat? with
    | some n => return s.arguments[n - 1]?
    | none => return s.bindings.lookup name

/-- Gives a variable a value. -/
def setVariable (name value : String) : Interp Unit :=
  modify fun s =>
    { s with bindings := (name, value) :: s.bindings.filter (·.1 ≠ name) }

/-- Takes a variable away. -/
def unsetVariable (name : String) : Interp Unit :=
  modify fun s => { s with
    bindings := s.bindings.filter (·.1 ≠ name)
    exported := s.exported.filter (· ≠ name) }

/-- Lets programs see a variable. -/
def exportVariable (name : String) : Interp Unit :=
  modify fun s =>
    if s.exported.contains name then s else { s with exported := s.exported ++ [name] }

/-- Makes a variable one of the function around: in the end it is again what it was. -/
def shadowVariable (name : String) : Interp Unit :=
  modify fun s =>
    match s.shadowed with
    | none => s
    | some shadowed =>
      if shadowed.any (·.name = name) then s
      else
        let now := ⟨name, s.bindings.lookup name, s.exported.contains name⟩
        { s with shadowed := some (now :: shadowed) }

/-- Makes the variables of the function around what they were before. -/
def unshadowAll : Interp Unit := do
  for h in (← get).shadowed.getD [] do
    unsetVariable h.name
    if let some value := h.value then
      setVariable h.name value
    if h.isExported then
      exportVariable h.name

/-- What programs get to see. -/
def environment : Interp Environment := do
  let s ← get
  return s.exported.filterMap fun name => (s.bindings.lookup name).map (name, ·)

/-- The characters at which values are split. -/
def separators : Interp (List Char) := do
  return (((← get).bindings.lookup "IFS").getD " \t\n").toList

/-! ## Children -/

/-- What a script says of a child that a signal has ended. -/
def signalText : Signal → Option String
  | .int | .pipe => none
  | .hup => some "Hangup"
  | .quit => some "Quit"
  | .ill => some "Illegal instruction"
  | .trap => some "Trace/breakpoint trap"
  | .abrt => some "Aborted"
  | .bus => some "Bus error"
  | .fpe => some "Floating point exception"
  | .kill => some "Killed"
  | .usr1 => some "User defined signal 1"
  | .segv => some "Segmentation fault"
  | .usr2 => some "User defined signal 2"
  | .alrm => some "Alarm clock"
  | .term => some "Terminated"
  | s => some ("Signal " ++ toString s.number)

/-- The code that a status word stands for. -/
def codeOfWord (word : Nat) : Nat :=
  if word % 0x80 = 0 then word / 0x100 % 0x100 else 128 + word % 0x80

/-- The code of a child that cannot be waited for. -/
def unknownChild : Nat := 127

/-- Takes note of the signals that have come. -/
def notice : Interp Unit := do
  let caught ← sys .takeCaught
  modify fun s => { s with noticed := s.noticed ++ caught }

/-- Waits for a child to end; the value is its status word. A signal does not end the wait. -/
def awaitChild (pid : Nat) : Nat → Interp (Option Nat)
  | 0 => return none
  | fuel + 1 => do
    match ← sys (.await (some pid) true) with
    | .ok (some (_, word)) => return some word
    | .ok none => return none
    | .error e =>
      if e = .interrupted then
        notice
        awaitChild pid fuel
      else
        return none

/-- Waits for a child in the foreground; the value is its code. A death by a signal is told. -/
def foreground (pid : Nat) : Interp Nat := do
  match ← awaitChild pid Act.bound with
  | none => return unknownChild
  | some word =>
    if let some text := (Signal.ofNumber? (word % 0x80)).bind signalText then
      act (Act.complain text)
    return codeOfWord word

/-- Begins a child that carries out `body`. It has no traps. -/
def fork (body : Interp Nat) : Interp (Option Nat) := do
  let s ← get
  let child : Act Nat := do
    let (result, s) ← body.run.run { s with traps := [], noticed := [] }
    return codeOf result s
  match ← act (Act.fork child) with
  | .ok pid => return some pid
  | .error _ =>
    complain "Cannot fork"
    return none

/-! ## Redirections -/

/-- The first descriptor that is used to keep others. -/
def firstKept : Nat := 10

/-- A descriptor that has been redirected, and where it is kept; nowhere if it was closed. -/
abbrev Kept : Type := Nat × Option Nat

/-- Puts descriptors back. -/
def restore : List Kept → Interp Unit
  | [] => return ()
  | (fd, place) :: rest => do
    match place with
    | some place =>
      let _ ← sys (.duplicate place fd)
      let _ ← sys (.close place)
    | none =>
      let _ ← sys (.close fd)
    restore rest

/-- The wording of a failure to open a file. -/
def openWording (how : Redirect) (path : String) (e : Errno) : String :=
  let absent := e = .noEntry || e = .notDirectory
  match how with
  | .input => "cannot open " ++ path ++ ": " ++ (if absent then "No such file" else e.wording)
  | _ =>
    "cannot create " ++ path ++ ": " ++ (if absent then "Directory nonexistent" else e.wording)

/-- How a redirection opens its file. -/
def openModeOf : Redirect → FileTree.OpenMode
  | .append => .appending
  | .output => .overwriting
  | .update => .updating
  | _ => .reading

/-- Redirects a descriptor; the value says whether that could be done. -/
def redirect (fd : Nat) (how : Redirect) (target : String) : Interp Bool := do
  match how with
  | .duplicate =>
    if target = "-" then
      let _ ← sys (.close fd)
      return true
    else
      match target.toNat? with
      | none => die ("Bad fd number")
      | some source =>
        match ← sys (.duplicate source fd) with
        | .ok () => return true
        | .error e =>
          complain (target ++ ": " ++ e.wording)
          return false
  | .text =>
    match ← sys .makePipe with
    | .error _ => die "Pipe call failed"
    | .ok (reader, writer) =>
      let _ ← act (Act.writeAll writer (Bytes.ofString target))
      let _ ← sys (.close writer)
      let _ ← sys (.duplicate reader fd)
      let _ ← sys (.close reader)
      return true
  | _ =>
    match ← sys (.openFile target (openModeOf how)) with
    | .error e =>
      complain (openWording how target e)
      return false
    | .ok opened =>
      if opened ≠ fd then
        let _ ← sys (.duplicate opened fd)
        let _ ← sys (.close opened)
      return true

/-- Redirects descriptors one after the other, keeping each of them first. The value says whether
all could be redirected. -/
def redirectAll : List (Nat × Redirect × String) → List Kept → Interp (Bool × List Kept)
  | [], kept => return (true, kept)
  | (fd, how, target) :: rest, kept => do
    let place ← sys (.setAside fd firstKept)
    let kept := (fd, place.toOption) :: kept
    if ← redirect fd how target then redirectAll rest kept else return (false, kept)

/-- Carries out `body` with descriptors redirected; if that is not possible, `otherwise`. -/
def withRedirected (redirections : List (Nat × Redirect × String)) (otherwise body : Interp Nat) :
    Interp Nat := do
  if redirections.isEmpty then
    body
  else
    let (good, kept) ← redirectAll redirections []
    if good then
      let code ← tryCatch body fun leave => do
        restore kept
        throw leave
      restore kept
      return code
    else
      restore kept
      otherwise

end Interp

end JobShell.Script
