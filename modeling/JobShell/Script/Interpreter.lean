import JobShell.Script.Builtin
import JobShell.Script.Expand

/-!
# Carrying out scripts

What each statement does. Programs run in processes of their own, unless a statement is the last
one of its process: then the process becomes the program.
-/

namespace JobShell.Script

open Machine

namespace Interp

/-! ## Programs -/

/-- The code when there is no such program. -/
def notFound : Nat := 127

/-- The code when a program may not be run. -/
def notRunnable : Nat := 126

/-- The path of a program, or the code and the complaint when there is none. -/
def findProgram (name : String) : Interp (Except (Nat × String) String) := do
  let absent : Nat × String := (notFound, name ++ ": not found")
  if name.contains '/' then
    match ← sys (.status name) with
    | .error _ => return .error absent
    | .ok s =>
      if s.kind = .directory || !s.executable then
        return .error (notRunnable, name ++ ": Permission denied")
      else
        return .ok name
  else
    let path := (← valueOf? "PATH").getD "/usr/local/bin:/usr/bin:/bin"
    for directory in path.splitOn ":" do
      let candidate := if directory.isEmpty then name else directory ++ "/" ++ name
      match ← sys (.status candidate) with
      | .ok s => if s.kind = .regular && s.executable then return .ok candidate
      | .error _ => pure ()
    return .error absent

/-- Becomes a program. -/
def become {α : Type} (path : String) (words : List String) (environment : Environment) :
    Interp α := do
  let e ← sys (.exec path words environment)
  complain (path ++ ": " ++ (if e = .noEntry then "not found" else e.wording))
  exit (if e = .noEntry then notFound else notRunnable)

/-- Runs a program; with `last`, in the place of the script. -/
def runProgram (last : Bool) (words : List String) (assignments : List (String × String)) :
    Interp Nat := do
  match ← findProgram (words.headD "") with
  | .error (code, message) =>
    complain message
    return code
  | .ok path =>
    let inherited := (← environment).filter fun v => !(assignments.any (·.1 = v.1))
    let environment := inherited ++ assignments
    if last && (← get).traps.isEmpty then
      become path words environment
    else
      match ← fork (become path words environment) with
      | some pid => foreground pid
      | none => return misuse

/-! ## Loops -/

/-- What becomes of a turn of a loop. -/
inductive Turn where
  | over (code : Nat)
  | left (code : Nat)

/-- One turn of a loop, which `leaveLoops` and `nextTurn` end. -/
def turn (body : Interp Nat) : Interp Turn := do
  let around := (← get).loops
  modify fun s => { s with loops := around + 1 }
  let result ← tryCatch (Turn.over <$> body) fun leave =>
    match leave with
    | .leaveLoops n => if n ≤ 1 then return .left 0 else throw (.leaveLoops (n - 1))
    | .nextTurn n => if n ≤ 1 then return .over 0 else throw (.nextTurn (n - 1))
    | other => throw other
  modify fun s => { s with loops := around }
  return result

/-- Repeats `body` as long as `test` has the value `wanted`. -/
def repeatWhile (test : Interp Bool) (body : Interp Nat) : Nat → Nat → Interp Nat
  | 0, code => return code
  | fuel + 1, code => do
    if ← test then
      match ← turn body with
      | .over code => repeatWhile test body fuel code
      | .left code => return code
    else
      return code

/-- Carries out `body` for each value of a variable. -/
def forEach (name : String) (body : Interp Nat) : List String → Nat → Interp Nat
  | [], code => return code
  | value :: rest, _ => do
    setVariable name value
    match ← turn body with
    | .over code => forEach name body rest code
    | .left code => return code

/-! ## Pipelines -/

/-- A member of a pipeline in its own process: its standard input and output are put in place. -/
def member (input : Option Nat) (output : Option (Nat × Nat)) (body : Interp Nat) : Interp Nat := do
  if let some fd := input then
    let _ ← sys (.duplicate fd 0)
    let _ ← sys (.close fd)
  if let some (reader, writer) := output then
    let _ ← sys (.close reader)
    let _ ← sys (.duplicate writer 1)
    let _ ← sys (.close writer)
  body

/-- Begins the members of a pipeline; the values are their numbers. -/
def beginMembers (input : Option Nat) : List (Interp Nat) → Interp (List Nat)
  | [] => return []
  | body :: rest => do
    let pipe ← if rest.isEmpty then pure none else do pure (← sys .makePipe).toOption
    let pid ← fork (member input pipe body)
    if let some fd := input then
      let _ ← sys (.close fd)
    if let some (_, writer) := pipe then
      let _ ← sys (.close writer)
    return pid.toList ++ (← beginMembers (pipe.map Prod.fst) rest)

/-- Waits for processes; the value is the code of the last one. -/
def foregroundAll : List Nat → Interp Nat
  | [] => return 0
  | [pid] => foreground pid
  | pid :: rest => do
    let _ ← foreground pid
    foregroundAll rest

/-- The code of a pipeline with a mark that turns it round. -/
def turnedRound (negated : Bool) (code : Nat) : Nat :=
  if negated then (if code = 0 then 1 else 0) else code

/-! ## Statements -/

/-- Remembers the code of a statement. -/
def remember (code : Nat) : Interp Nat := do
  modify fun s => { s with status := code }
  return code

/-- Remembers the code of a statement that may end the script if it has failed. -/
def settle (code : Nat) : Interp Nat := do
  let s ← get
  if code ≠ 0 && s.exitsOnFailure && s.questions = 0 then exit code else remember code

/-- Carries out a statement whose failure only answers a question. -/
def question (body : Interp Nat) : Interp Nat := do
  let around := (← get).questions
  modify fun s => { s with questions := around + 1 }
  let code ← tryCatch body fun leave => do
    modify fun s => { s with questions := around }
    throw leave
  modify fun s => { s with questions := around }
  return code

/-- Carries out the statements of a script one line after the other. -/
def runLines (run : Bool → Statement → Interp Nat) (last : Bool) :
    Nat → List Placed → Nat → Interp Nat
  | 0, _, code => return code
  | fuel + 1, tokens, code => do
    match nextLine? tokens with
    | .error problem =>
      modify fun s => { s with line := problem.line }
      die ("Syntax error: " ++ problem.message)
    | .ok none => return code
    | .ok (some (statement, rest)) =>
      let isLast := rest.all fun t => match t.token with
        | .lineEnd => true
        | _ => false
      runLines run last fuel rest (← run (last && isLast) statement)

/-- Carries out a script. -/
def runSource (run : Bool → Statement → Interp Nat) (last : Bool) (source : String)
    (line : Nat) : Interp Nat :=
  let tokens := tokensOf line source
  runLines run last (tokens.length + 1) tokens 0

/-- The output of a script. -/
def outputOf (run : Bool → Statement → Interp Nat) (source : String) : Interp String := do
  match ← sys .makePipe with
  | .error _ => die "Pipe call failed"
  | .ok (reader, writer) =>
    let line := (← get).line
    let pid ← fork (member none (some (reader, writer)) (runSource run true source line))
    let _ ← sys (.close writer)
    let data := (← act (Act.readAll reader)).toOption.getD []
    let _ ← sys (.close reader)
    let code ← match pid with
      | some pid => foreground pid
      | none => pure misuse
    modify fun s => { s with outputStatus := code }
    return Bytes.toString data

/-- Sees to the signals that have come. -/
def seeToSignals (run : Bool → Statement → Interp Nat) : Interp Unit := do
  unless (← get).traps.isEmpty do
    notice
    let s ← get
    set { s with noticed := [] }
    for signal in s.noticed do
      if let some action := s.traps.lookup signal.shortName then
        let _ ← runSource run false action 1
        modify fun after => { after with status := s.status }

/-- The targets of redirections. -/
def targets (output : String → Interp String) :
    List Redirection → Interp (List (Nat × Redirect × String))
  | [] => return []
  | r :: rest => do
    let target ← Expand.single output r.target
    return (r.fd, r.how, target) :: (← targets output rest)

/-- The values of assignments. -/
def values (output : String → Interp String) :
    List (String × Word) → Interp (List (String × String))
  | [] => return []
  | (name, word) :: rest => do
    let value ← Expand.single output word
    return (name, value) :: (← values output rest)

/-- Gives variables their values. -/
def setAll (assignments : List (String × String)) : Interp Unit :=
  assignments.forM fun (name, value) => setVariable name value

/-- Carries out a function with arguments and variables of its own. -/
def callFunction (body : Interp Nat) (arguments : List String)
    (assignments : List (String × String)) : Interp Nat := do
  let outer ← get
  modify fun s => { s with arguments, shadowed := some [] }
  for (name, value) in assignments do
    shadowVariable name
    setVariable name value
    exportVariable name
  let code ← tryCatch body fun leave =>
    match leave with
    | .return code => return code
    | other => throw other
  unshadowAll
  modify fun s => { s with arguments := outer.arguments, shadowed := outer.shadowed }
  return code

/-- Carries out a file in the same process. -/
def sourceFile (run : Bool → Statement → Interp Nat) (path : String) : Interp Nat := do
  match ← sys (.openFile path .reading) with
  | .error e => die (".: " ++ openWording .input path e)
  | .ok fd =>
    let data := (← act (Act.readAll fd)).toOption.getD []
    let _ ← sys (.close fd)
    tryCatch (runSource run false (Bytes.toString data) 1) fun leave =>
      match leave with
      | .return code => return code
      | other => throw other

/-- Redirects descriptors for good. -/
def redirectForGood (redirections : List (Nat × Redirect × String)) : Interp Nat := do
  for (fd, how, target) in redirections do
    unless ← redirect fd how target do
      exit misuse
  return 0

/-- Carries out a command: a function, a built-in command or a program. -/
def runCommand (run : Bool → Statement → Interp Nat) (last : Bool) (words : List String)
    (assignments : List (String × String)) (redirections : List (Nat × Redirect × String)) :
    Interp Nat := do
  let name := words.headD ""
  let arguments := words.tail
  let failed : Interp Nat := if Builtin.isSpecial name then exit misuse else return misuse
  let inPlace := fun (body : Interp Nat) => withRedirected redirections failed body
  match (← get).functions.lookup name with
  | some body => inPlace (callFunction (run false body) arguments assignments)
  | none =>
    match name with
    | "exec" =>
      let _ ← redirectForGood redirections
      if arguments.isEmpty then
        return 0
      else
        match ← findProgram (arguments.headD "") with
        | .ok path => become path arguments ((← environment) ++ assignments)
        | .error (code, message) =>
          complain ("exec: " ++ message)
          exit code
    | "eval" =>
      setAll assignments
      inPlace (runSource run false (" ".intercalate arguments) 1)
    | "command" =>
      match arguments with
      | [] => return 0
      | "-v" :: wanted =>
        match ← findProgram (wanted.headD "") with
        | .ok path =>
          let known := Builtin.ofName? (wanted.headD "")
          let shown := if known.isSome then wanted.headD "" else path
          Builtin.put name (Bytes.ofString (shown ++ "\n"))
        | .error _ => return notFound
      | inner :: more =>
        match Builtin.ofName? inner with
        | some action => inPlace (action more)
        | none => inPlace (runProgram last arguments assignments)
    | "." =>
      setAll assignments
      inPlace (sourceFile run (arguments.headD ""))
    | _ =>
      match Builtin.ofName? name with
      | some action =>
        let before := (← get).bindings
        setAll assignments
        let code ← tryCatch (inPlace (action arguments)) fun leave =>
          match leave with
          | .broken => if Builtin.isSpecial name then throw .broken else return misuse
          | other => throw other
        unless Builtin.isSpecial name || assignments.isEmpty do
          modify fun s => { s with bindings := before }
        return code
      | none => inPlace (runProgram last words assignments)

/-- Carries out a statement; with `last`, nothing follows it in its process. The value is its
code. -/
def execute : Nat → Bool → Statement → Interp Nat
  | 0, _, _ => exit misuse
  | fuel + 1, last, statement => do
    let output := outputOf (execute fuel)
    let redirected := fun (redirections : List Redirection) (body : Interp Nat) => do
      withRedirected (← targets output redirections) (remember misuse) body
    match statement with
    | .simple line assignments words redirections =>
      sys .yield
      seeToSignals (execute fuel)
      modify fun s => { s with line, outputStatus := 0 }
      let words ← Expand.allFields output words
      let redirections ← targets output redirections
      let assignments ← values output assignments
      if words.isEmpty then
        withRedirected redirections (remember misuse) do
          setAll assignments
          remember (← get).outputStatus
      else
        let code ← runCommand (execute fuel) last words assignments redirections
        seeToSignals (execute fuel)
        settle code
    | .pipeline negated [only] =>
      if negated then
        remember (turnedRound true (← question (execute fuel false only)))
      else
        execute fuel last only
    | .pipeline negated members =>
      let pids ← beginMembers none (members.map fun m => execute fuel true m)
      let code := turnedRound negated (← foregroundAll pids)
      if negated then remember code else settle code
    | .both first second =>
      if (← question (execute fuel false first)) = 0 then execute fuel last second
      else return (← get).status
    | .either first second =>
      if (← question (execute fuel false first)) = 0 then return 0 else execute fuel last second
    | .sequence first second =>
      let _ ← execute fuel false first
      execute fuel last second
    | .background body =>
      let pid ← fork do
        sys (.setDisposition .int .ignore)
        sys (.setDisposition .quit .ignore)
        let _ ← redirect 0 .input "/dev/null"
        execute fuel true body
      modify fun s => { s with background := pid }
      remember 0
    | .group false body redirections => redirected redirections (execute fuel false body)
    | .group true body redirections =>
      match ← fork (redirected redirections (execute fuel true body)) with
      | some pid => settle (← foreground pid)
      | none => remember misuse
    | .conditional test body otherwise redirections =>
      redirected redirections do
        if (← question (execute fuel false test)) = 0 then
          execute fuel false body
        else
          match otherwise with
          | some other => execute fuel false other
          | none => remember 0
    | .repetition whileFails test body redirections =>
      redirected redirections do
        let test := do return ((← question (execute fuel false test)) = 0) != whileFails
        remember (← repeatWhile test (execute fuel false body) Act.bound 0)
    | .each name values body redirections =>
      redirected redirections do
        let values ← match values with
          | some words => Expand.allFields output words
          | none => do pure (← get).arguments
        remember (← forEach name (execute fuel false body) values 0)
    | .choice word branches redirections =>
      redirected redirections do
        let s ← Expand.single output word
        for (patterns, body) in branches do
          for p in patterns do
            if Pattern.isMatch (← Expand.pattern output p) s.toList then
              match body with
              | some body => return ← execute fuel false body
              | none => return ← remember 0
        remember 0
    | .function name body =>
      modify fun s => { s with
        functions := (name, body) :: s.functions.filter (·.1 ≠ name) }
      remember 0

end Interp

end JobShell.Script
