import JobShell.Script.State
import JobShell.Machine.Tool.Check
import JobShell.Machine.Tool.Echo

/-!
# Built-in commands of scripts

The commands that a script carries out in its own process and that need nothing but its state.
-/

namespace JobShell.Script

open Machine

namespace Builtin

open Interp

/-- A built-in command, given its arguments; the value is its code. -/
abbrev Action : Type := List String → Interp Nat

/-- Complains in the name of a built-in command; the value is its code. -/
def refuse (name message : String) (code : Nat) : Interp Nat := do
  complain (name ++ ": " ++ message)
  return code

/-- Writes to standard output in the name of a built-in command. -/
def put (name : String) (data : Bytes) : Interp Nat := do
  match ← act (Act.writeAll 1 data) with
  | .ok () => return 0
  | .error _ => refuse name (name ++ ": I/O error") 1

/-- The number that an argument is, if it is one. -/
def number (name argument : String) : Interp Nat := do
  match argument.toNat? with
  | some n => return n
  | none => die (name ++ ": Illegal number: " ++ argument)

/-- Writes its arguments, with escapes. -/
def echo : Action := fun arguments => do
  let (words, open') := match arguments with
    | "-n" :: rest => (rest, true)
    | _ => (arguments, false)
  let (bytes, stop) := Tool.unescaped true (" ".intercalate words)
  put "echo" (if stop || open' then bytes else bytes ++ [Bytes.lineFeed])

/-- Writes its arguments in a format. -/
def printf : Action := fun arguments => do
  match arguments with
  | [] => die "printf: usage: printf format [arg ...]"
  | pattern :: values =>
    let result := Tool.format pattern.toList (values.length + 1) values
    let code ← put "printf" result.bytes
    for argument in result.wrong do
      complain ("printf: " ++ argument ++ ": expected numeric value")
    return if result.wrong.isEmpty then code else 1

/-- Makes a test. -/
def test (name : String) : Action := fun arguments => do
  match Tool.checkOperands? name arguments with
  | none => refuse name "missing ]" Tool.badCheck
  | some operands =>
    match ← act (Tool.check operands) with
    | .ok result => return Tool.codeOf result
    | .error (.noNumber s) => refuse name ("Illegal number: " ++ s) Tool.badCheck
    | .error (.unexpected s) => refuse name (s ++ ": unexpected operator") Tool.badCheck
    | .error (.missing _) => refuse name "argument expected" Tool.badCheck
    | .error .unclosed => refuse name "closing paren expected" Tool.badCheck

/-- Changes the working directory. -/
def changeDirectory : Action := fun arguments => do
  let wanted ← match arguments.filter (· ≠ "--") with
    | [] => return ← move (((← valueOf? "HOME").getD ""))
    | path :: _ => pure path
  if wanted = "-" then
    let path := (← valueOf? "OLDPWD").getD ""
    let code ← move path
    if code = 0 then put "cd" (Bytes.ofString (path ++ "\n")) else return code
  else
    move wanted
where
  /-- Changes the working directory and remembers the old one. -/
  move (path : String) : Interp Nat := do
    let before := (← sys .currentDirectory).toOption.getD ""
    if path.isEmpty then
      return 0
    else
      match ← sys (.changeDirectory path) with
      | .error _ => refuse "cd" ("can't cd to " ++ path) misuse
      | .ok () =>
        setVariable "OLDPWD" before
        setVariable "PWD" ((← sys .currentDirectory).toOption.getD path)
        return 0

/-- Writes the working directory. -/
def pwd : Action := fun _ => do
  match ← sys .currentDirectory with
  | .ok path => put "pwd" (Bytes.ofString (path ++ "\n"))
  | .error e => refuse "pwd" e.wording 1

/-- Lets programs see variables, perhaps with new values. -/
def exportAll : Action := fun arguments => do
  for a in arguments do
    let name := (a.takeWhile (· ≠ '=')).toString
    if name ≠ a then
      setVariable name (a.drop (name.length + 1)).toString
    exportVariable name
  return 0

/-- Makes variables those of the function around, perhaps with new values. -/
def makeLocal : Action := fun arguments => do
  if (← get).shadowed.isNone then
    die "local: not in a function"
  for a in arguments do
    let name := (a.takeWhile (· ≠ '=')).toString
    shadowVariable name
    if name ≠ a then
      setVariable name (a.drop (name.length + 1)).toString
  return 0

/-- Takes variables away. -/
def unset : Action := fun arguments => do
  for a in arguments do
    if a = "-v" || a = "-f" then
      pure ()
    else
      unsetVariable a
      modify fun s => { s with functions := s.functions.filter (·.1 ≠ a) }
  return 0

/-- Sets the arguments of the script, and whether a failure ends it. -/
def setArguments : Action := fun arguments => do
  let isOption := fun (a : String) => a ≠ "--" && (a.startsWith "-" || a.startsWith "+")
  for a in arguments.takeWhile isOption do
    if a.contains 'e' then
      modify fun s => { s with exitsOnFailure := a.startsWith "-" }
  match arguments.dropWhile isOption with
  | "--" :: rest => modify fun s => { s with arguments := rest }
  | [] => pure ()
  | rest => modify fun s => { s with arguments := rest }
  return 0

/-- Drops the first arguments of the script. -/
def shift : Action := fun arguments => do
  let n ← match arguments with
    | [] => pure 1
    | a :: _ => number "shift" a
  if (← get).arguments.length < n then
    die "shift: can't shift that many"
  else
    modify fun s => { s with arguments := s.arguments.drop n }
    return 0

/-- Leaves the script or a function, with the code of the last statement if none is given. -/
def leave (name : String) (how : Nat → Leave) : Action := fun arguments => do
  match arguments with
  | [] => throw (how (← get).status)
  | a :: _ => throw (how (← number name a))

/-- Leaves loops around, as far as there are any, or their current turns. -/
def leaveLoops (name : String) (how : Nat → Leave) : Action := fun arguments => do
  let wanted ← match arguments with
    | [] => pure 1
    | a :: _ => number name a
  let count := min wanted (← get).loops
  if count = 0 then return 0 else throw (how count)

/-- Reads one line from standard input, byte by byte; the flag says whether its end was there.
Unless `raw`, a backslash takes the meaning of the next character away. -/
def readLine (raw : Bool) : Nat → List Glyph → Interp (List Glyph × Bool)
  | 0, line => return (line.reverse, false)
  | fuel + 1, line => do
    let byte := do return (← sys (.read 0 1)).toOption.bind List.head?
    match ← byte with
    | none => return (line.reverse, false)
    | some b =>
      if b = Bytes.lineFeed then
        return (line.reverse, true)
      else if b = 0x5C && !raw then
        match ← byte with
        | some next =>
          if next = Bytes.lineFeed then readLine raw fuel line
          else readLine raw fuel (⟨Char.ofNat next.toNat, true⟩ :: line)
        | none => return (line.reverse, false)
      else
        readLine raw fuel (⟨Char.ofNat b.toNat, false⟩ :: line)

/-- The text of glyphs that stand for bytes. -/
def byteText (gs : List Glyph) : String :=
  Bytes.toString (gs.map fun g => UInt8.ofNat g.char.toNat)

/-- Splits a line among variables; the last one gets the rest. -/
def shareOut (separators : List Char) : List String → List Glyph → List (String × String)
  | [], _ => []
  | name :: names, line =>
    let isSeparator := fun (g : Glyph) => !g.quoted && separators.contains g.char
    let isBlank := fun (g : Glyph) => isSeparator g && (g.char = ' ' || g.char = '\t')
    let line := line.dropWhile isBlank
    if names.isEmpty then
      [(name, byteText (line.reverse.dropWhile isBlank).reverse)]
    else
      let field := line.takeWhile (!isSeparator ·)
      let rest := line.drop field.length
      let blanks := rest.takeWhile isBlank
      let rest := match rest.drop blanks.length with
        | g :: more => if isSeparator g then more else g :: more
        | [] => []
      (name, byteText field) :: shareOut separators names rest

/-- Reads a line into variables. -/
def read : Action := fun arguments => do
  let raw := arguments.head? = some "-r"
  let names := if raw then arguments.tail else arguments
  if names.isEmpty then
    die "read: arg count"
  else
    let (line, isEnded) ← readLine raw Act.bound []
    for (name, value) in shareOut (← separators) names line do
      setVariable name value
    return Tool.codeOf isEnded

/-- Sends a signal to processes. -/
def kill : Action := fun arguments => do
  let (word, targets) := match arguments with
    | "-s" :: word :: rest => (word, rest)
    | a :: rest =>
      if a = "--" then ("TERM", rest)
      else if a.startsWith "-" then ((a.drop 1).toString, rest)
      else ("TERM", arguments)
    | [] => ("TERM", [])
  if targets.isEmpty then
    die ("kill: Usage: kill [-s sigspec | -signum | -sigspec] [pid | job]... or\n"
      ++ "kill -l [exitstatus]")
  else if (Signal.ofWord? word).isNone && word ≠ "0" then
    die ("kill: Illegal option -" ++ (word.take 1).toString)
  else
    let mut code := 0
    for target in targets do
      match Tool.integer? target with
      | none => code ← refuse "kill" ("Illegal number: " ++ target) 1
      | some pid =>
        match ← sys (.kill pid (Signal.ofWord? word)) with
        | .ok () => pure ()
        | .error e => code ← refuse "kill" (e.wording ++ "\n") 1
    return code

/-- Waits for all children. -/
def awaitAll : Nat → Interp Nat
  | 0 => return 0
  | fuel + 1 => do
    match ← sys (.await none true) with
    | .ok _ => awaitAll fuel
    | .error e => if e = .interrupted then interrupted else return 0
where
  /-- The code of a wait that a signal has ended. -/
  interrupted : Interp Nat := do
    notice
    return 128 + (((← get).noticed.head?.map Signal.number).getD 0)

/-- Waits for children. -/
def wait : Action := fun arguments => do
  if arguments.isEmpty then
    awaitAll Act.bound
  else
    let mut code := 0
    for a in arguments do
      match a.toNat? with
      | none => code ← refuse "wait" ("Illegal number: " ++ a) misuse
      | some pid =>
        match ← sys (.await (some pid) true) with
        | .ok (some (_, word)) => code := codeOfWord word
        | .ok none => code := unknownChild
        | .error e =>
          code ← if e = .interrupted then awaitAll.interrupted else pure unknownChild
    return code

/-- The name under which a trap is kept. -/
def trapName? (word : String) : Option String :=
  if word = "0" || word.toUpper = "EXIT" then some "EXIT"
  else (Signal.ofWord? word).map Signal.shortName

/-- Says what is done when a signal comes, or at the end. -/
def trap : Action := fun arguments => do
  let (action, words) : Option String × List String := match arguments with
    | [] => (none, [])
    | [word] => (none, [word])
    | "-" :: words => (none, words)
    | action :: words => (some action, words)
  let mut code := 0
  for word in words do
    match trapName? word with
    | none => code ← refuse "trap" (word ++ ": bad trap") 1
    | some name =>
      modify fun s => { s with traps := (match action with
        | some a => [(name, a)]
        | none => []) ++ s.traps.filter (·.1 ≠ name) }
      if let some s := Signal.ofWord? name then
        sys (.setDisposition s (match action with
          | none => .default
          | some "" => .ignore
          | some _ => .handle))
  return code

/-- The built-in command with a name. -/
def ofName? : String → Option Action
  | ":" | "true" => some fun _ => return 0
  | "false" => some fun _ => return 1
  | "umask" | "ulimit" => some fun _ => return 0
  | "echo" => some echo
  | "printf" => some printf
  | "test" => some (test "test")
  | "[" => some (test "[")
  | "cd" => some changeDirectory
  | "pwd" => some pwd
  | "export" | "readonly" => some exportAll
  | "local" => some makeLocal
  | "unset" => some unset
  | "set" => some setArguments
  | "shift" => some shift
  | "exit" => some (leave "exit" .exit)
  | "return" => some (leave "return" .return)
  | "break" => some (leaveLoops "break" .leaveLoops)
  | "continue" => some (leaveLoops "continue" .nextTurn)
  | "read" => some read
  | "kill" => some kill
  | "wait" => some wait
  | "trap" => some trap
  | _ => none

/-- The built-in commands whose failure ends the script, and that keep the variables set for
them. -/
def isSpecial (name : String) : Bool :=
  [":", ".", "break", "continue", "eval", "exec", "exit", "export", "local", "readonly", "return",
   "set", "shift", "trap", "unset"].contains name

end Builtin

end JobShell.Script
