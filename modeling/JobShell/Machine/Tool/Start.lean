import JobShell.Machine.Tool.Basic

/-!
# Tools that act on processes

`env`, which becomes another program in a changed environment, and `kill`, which sends signals.
-/

namespace JobShell.Machine.Tool

open Act

/-- The variable and the value of an argument that sets one. -/
def setting? (argument : String) : Option (String × String) :=
  let name := (argument.takeWhile (· ≠ '=')).toString
  if name = argument || name.isEmpty then none
  else some (name, (argument.drop (name.length + 1)).toString)

/-- Becomes another program in a changed environment, or writes that environment. -/
def env : Tool := fun i => do
  let p ← parsed i ⟨['i'], ['u'], true⟩ 125
  let start := if p.has 'i' then [] else i.environment
  let start := start.filter fun v => !(p.values 'u').contains v.1
  let settings := (p.operands.map setting?).takeWhile Option.isSome |>.filterMap id
  let environment := settings.foldl (fun e (name, value) =>
    if e.any (·.1 = name) then e.map fun v => if v.1 = name then (name, value) else v
    else e ++ [(name, value)]) start
  match p.operands.drop settings.length with
  | [] =>
    for (name, value) in environment do
      printText i (name ++ "=" ++ value ++ "\n")
    return 0
  | command :: arguments =>
    let e ← sys (.exec command (command :: arguments) environment)
    warn i ("'" ++ command ++ "': " ++ e.wording)
    return if e = .noEntry then 127 else 126

/-- Sends a signal to processes. -/
def kill : Tool := fun i => do
  let (word, targets) := match i.arguments with
    | "-s" :: word :: rest => (word, rest)
    | a :: rest => if a.startsWith "-" then ((a.drop 1).toString, rest) else ("TERM", a :: rest)
    | [] => ("TERM", [])
  if targets.isEmpty then
    refuse i 1 "not enough arguments"
  else if (Signal.ofWord? word).isNone && word ≠ "0" then
    warn i ("unknown signal: " ++ word)
    return 1
  else
    let mut good := true
    for target in targets do
      match integer? target with
      | none =>
        warn i ("cannot find process \"" ++ target ++ "\"")
        good := false
      | some pid =>
        match ← sys (.kill pid (Signal.ofWord? word)) with
        | .ok () => pure ()
        | .error e =>
          warn i ("sending signal to " ++ target ++ " failed: " ++ e.wording)
          good := false
    return codeOf good

end JobShell.Machine.Tool
