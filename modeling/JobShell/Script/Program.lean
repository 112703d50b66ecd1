import JobShell.Script.Interpreter
import JobShell.Machine.Tool.Basic

/-!
# The command interpreter as a program

A script comes from an argument, from a file, or from standard input.
-/

namespace JobShell.Script

open Machine

namespace Program

/-- Where a script comes from. -/
inductive Origin where
  | argument (source : String)
  | file (path : String)
  | standardInput

/-- What the arguments of the interpreter ask for. -/
structure Call where
  origin : Origin
  name : String
  arguments : List String
  /-- Whether the first failure ends the script. -/
  exitsOnFailure : Bool

/-- Takes the arguments of the interpreter apart, when options have said whether the script is an
argument and whether the first failure ends it. -/
def call? (own : String) (isArgument strict : Bool) : List String → Option Call
  | [] => if isArgument then none else some ⟨.standardInput, own, [], strict⟩
  | a :: rest =>
    if a = "-s" then some ⟨.standardInput, own, rest, strict⟩
    else if a = "--" || a = "-" then call? own isArgument strict rest
    else if a.startsWith "-" || a.startsWith "+" then
      call? own (isArgument || a.contains 'c') (strict || a.contains 'e') rest
    else if isArgument then some ⟨.argument a, rest.headD own, rest.tail, strict⟩
    else some ⟨.file a, own, rest, strict⟩

/-- The state in which a script begins. -/
def initialState (call : Call) (environment : Environment) (pid parent : Nat)
    (directory : Option String) : State where
  name := call.name
  arguments := call.arguments
  bindings := [("PPID", toString parent)] ++ (directory.toList.map fun d => ("PWD", d))
    ++ environment.filter fun v => v.1 ≠ "PWD" && v.1 ≠ "PPID"
  exported := (environment.map Prod.fst).filter (· ≠ "PWD") ++ ["PWD"]
  shadowed := none
  functions := []
  pid
  parent
  status := 0
  outputStatus := 0
  line := 0
  background := none
  traps := []
  noticed := []
  loops := 0
  exitsOnFailure := call.exitsOnFailure
  questions := 0

/-- Carries out a statement, however deep it is. -/
def run : Bool → Statement → Interp Nat := Interp.execute Act.bound

/-- The script itself. -/
def script (origin : Origin) : Interp Nat := do
  match origin with
  | .argument source => Interp.runSource run true source 1
  | .standardInput =>
    let data := (← Interp.act (Act.readAll 0)).toOption.getD []
    Interp.runSource run false (Bytes.toString data) 1
  | .file path =>
    match ← Interp.sys (.openFile path .reading) with
    | .error e => Interp.die (Interp.openWording .input path e)
    | .ok fd =>
      let data := (← Interp.act (Act.readAll fd)).toOption.getD []
      let _ ← Interp.sys (.close fd)
      modify fun s => { s with name := path }
      Interp.runSource run false (Bytes.toString data) 1

/-- Carries out a script and then what is to be done at its end. -/
def complete (origin : Origin) (s : State) : Act Nat := do
  let (result, s) ← (script origin).run.run s
  let code := Interp.codeOf result s
  match s.traps.lookup "EXIT" with
  | none => return code
  | some action =>
    let last : State := { s with status := code, traps := s.traps.filter (·.1 ≠ "EXIT") }
    match ← (Interp.runSource run false action 1).run.run last with
    | (.error (.exit other), _) => return other
    | _ => return code

/-- The interpreter. -/
def tool : Tool := fun i => do
  match call? i.name false false i.arguments with
  | none =>
    Act.complain (i.name ++ ": 0: -c requires an argument")
    return Interp.misuse
  | some call =>
    Act.sys (.setDisposition .chld .default)
    let pid ← Act.sys .ownPid
    let parent ← Act.sys .parentPid
    let directory := (← Act.sys .currentDirectory).toOption
    complete call.origin (initialState call i.environment pid parent directory)

end Program

end JobShell.Script
