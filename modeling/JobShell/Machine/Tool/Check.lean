import JobShell.Machine.Regex
import JobShell.Machine.Tool.Basic

/-!
# Tools that answer questions

`test`, which judges texts, numbers and files, and `expr`, which computes a value; both answer with
the code they end with.
-/

namespace JobShell.Machine.Tool

open Act

/-! ## Tests -/

/-- Why a test cannot be made. -/
inductive CheckFault where
  | noNumber (s : String)
  | missing (after : String)
  | unexpected (s : String)
  | unclosed

/-- A test that is being made. -/
abbrev Check (α : Type) : Type := ExceptT CheckFault (StateT (List String) Act) α

/-- Whether a file fits. -/
def fileCheck (operator path : String) : Act Bool := do
  match ← sys (.status path) with
  | .error _ => return false
  | .ok s =>
    match operator with
    | "-f" => return s.kind = .regular
    | "-d" => return s.kind = .directory
    | "-c" => return s.kind = .device
    | "-s" => return 0 < s.size
    | "-x" => return s.executable
    | "-e" | "-r" | "-w" => return true
    | _ => return false

/-- The operators that judge a file. -/
def fileOperators : List String :=
  ["-f", "-d", "-c", "-s", "-x", "-e", "-r", "-w", "-h", "-L", "-p", "-S", "-b", "-u", "-g", "-k"]

/-- The operators that judge one operand. -/
def singleOperators : List String := ["-n", "-z", "-t"] ++ fileOperators

/-- The operators that compare two operands. -/
def pairOperators : List String :=
  ["=", "==", "!=", "<", ">", "-eq", "-ne", "-lt", "-le", "-gt", "-ge"]

/-- A number of a test. -/
def checkNumber (s : String) : Check Int :=
  match integer? (Text.strip s) with
  | some n => return n
  | none => throw (.noNumber s)

/-- Compares two operands. -/
def compareOperands (operator a b : String) : Check Bool := do
  match operator with
  | "=" | "==" => return a = b
  | "!=" => return a ≠ b
  | "<" => return a < b
  | ">" => return b < a
  | _ =>
    let m ← checkNumber a
    let n ← checkNumber b
    match operator with
    | "-eq" => return m = n
    | "-ne" => return m ≠ n
    | "-lt" => return m < n
    | "-le" => return m ≤ n
    | "-gt" => return n < m
    | _ => return n ≤ m

/-- Judges one operand. -/
def judge (operator operand : String) : Check Bool := do
  match operator with
  | "-n" => return !operand.isEmpty
  | "-z" => return operand.isEmpty
  | "-t" => return false
  | _ => ExceptT.lift (StateT.lift (fileCheck operator operand))

mutual

/-- A test made of tests of which one is enough. -/
def anyCheck (fuel : Nat) : Check Bool :=
  match fuel with
  | 0 => return false
  | fuel + 1 => do
    let a ← allCheck fuel
    match ← get with
    | "-o" :: rest =>
      set rest
      let b ← anyCheck fuel
      return a || b
    | _ => return a

/-- A test made of tests that are all needed. -/
def allCheck (fuel : Nat) : Check Bool :=
  match fuel with
  | 0 => return false
  | fuel + 1 => do
    let a ← oneCheck fuel
    match ← get with
    | "-a" :: rest =>
      set rest
      let b ← allCheck fuel
      return a && b
    | _ => return a

/-- One test. -/
def oneCheck (fuel : Nat) : Check Bool :=
  match fuel with
  | 0 => return false
  | fuel + 1 => do
    match ← get with
    | [] => throw (.missing "")
    | a :: rest =>
      match rest with
      | operator :: b :: more =>
        if pairOperators.contains operator then
          set more
          compareOperands operator a b
        else
          simpleCheck fuel a rest
      | _ => simpleCheck fuel a rest

/-- One test that compares nothing. -/
def simpleCheck (fuel : Nat) (a : String) (rest : List String) : Check Bool :=
  match fuel with
  | 0 => return false
  | fuel + 1 => do
    match a, rest with
    | "!", _ :: _ =>
      set rest
      return !(← oneCheck fuel)
    | "(", _ :: _ =>
      set rest
      let result ← anyCheck fuel
      match ← get with
      | ")" :: rest =>
        set rest
        return result
      | _ => throw .unclosed
    | _, operand :: more =>
      if singleOperators.contains a then
        set more
        judge a operand
      else
        set rest
        return !a.isEmpty
    | _, [] =>
      set rest
      return !a.isEmpty

end

/-- Makes a test. -/
def check (arguments : List String) : Act (Except CheckFault Bool) := do
  if arguments.isEmpty then
    return .ok false
  else
    match ← (anyCheck (8 * arguments.length + 8)).run.run arguments with
    | (.error e, _) => return .error e
    | (.ok result, []) => return .ok result
    | (.ok _, extra :: _) => return .error (.unexpected extra)

/-- The operands of a test that was called by `name`: a bracket has to be closed. -/
def checkOperands? (name : String) (arguments : List String) : Option (List String) :=
  if name = "[" then
    if arguments.getLast? = some "]" then some arguments.dropLast else none
  else
    some arguments

/-- The code of a test that cannot be made. -/
def badCheck : Nat := 2

/-- Makes a test. -/
def test : Tool := fun i => do
  match checkOperands? i.name i.arguments with
  | none =>
    warn i "missing ']'"
    return badCheck
  | some operands =>
    match ← check operands with
    | .ok result => return codeOf result
    | .error (.noNumber s) =>
      warn i ("invalid integer '" ++ s ++ "'")
      return badCheck
    | .error (.missing s) =>
      warn i ("missing argument after '" ++ s ++ "'")
      return badCheck
    | .error (.unexpected s) =>
      warn i ("extra argument '" ++ s ++ "'")
      return badCheck
    | .error .unclosed =>
      warn i "')' expected"
      return badCheck

/-! ## Values -/

/-- Why an expression has no value. -/
inductive ExprFault where
  | missingArgument (after : String)
  | unexpected (s : String)
  | notInteger
  | zeroDivisor

/-- An expression that is being computed. -/
abbrev Expr (α : Type) : Type := StateT (List String) (Except ExprFault) α

/-- Whether a value counts as none. -/
def isNone (s : String) : Bool := s.isEmpty || integer? s = some 0

/-- An integer of an expression. -/
def exprNumber (s : String) : Expr Int :=
  match integer? s with
  | some n => return n
  | none => throw .notInteger

/-- The part of a text that a pattern matches at its beginning: what its group matched, or the
number of characters. -/
def matchValue (text pattern : String) : String :=
  let bytes := (Bytes.ofString text).toArray
    let hasGroup := (pattern.splitOn "\\(").length > 1
  match Regex.parse? false (Bytes.ofString pattern) with
  | none => if hasGroup then "" else "0"
  | some r =>
    match Regex.search r false bytes 0 with
    | some (0, stop, found) =>
      if hasGroup then
        match found.lookup 1 with
        | some (a, b) => Bytes.toString (bytes.extract a b).toList
        | none => ""
      else toString stop
    | _ => if hasGroup then "" else "0"

/-- The value of an operator between two values. -/
def exprApply (operator a b : String) : Expr String := do
  let truth := fun (b : Bool) => if b then "1" else "0"
  match operator with
  | "|" => return if isNone a then (if isNone b then "0" else b) else a
  | "&" => return if isNone a || isNone b then "0" else a
  | ":" => return matchValue a b
  | "+" | "-" | "*" | "/" | "%" =>
    let m ← exprNumber a
    let n ← exprNumber b
    match operator with
    | "+" => return toString (m + n)
    | "-" => return toString (m - n)
    | "*" => return toString (m * n)
    | _ =>
      if n = 0 then throw .zeroDivisor
      else return toString (if operator = "/" then m.tdiv n else m.tmod n)
  | _ =>
    let before : Ordering := match integer? a, integer? b with
      | some m, some n => if m < n then .lt else if m = n then .eq else .gt
      | _, _ => Ord.compare a b
    match operator with
    | "<" => return truth (before = .lt)
    | "<=" => return truth (before ≠ .gt)
    | "=" | "==" => return truth (before = .eq)
    | "!=" => return truth (before ≠ .eq)
    | ">=" => return truth (before ≠ .lt)
    | _ => return truth (before = .gt)

/-- The operators of an expression, those of the lowest rank first. -/
def exprRanks : List (List String) :=
  [["|"], ["&"], ["<", "<=", "=", "==", "!=", ">=", ">"], ["+", "-"], ["*", "/", "%"], [":"]]

mutual

/-- The value of an expression of a rank. -/
def exprValue (fuel : Nat) (ranks : List (List String)) : Expr String :=
  match fuel with
  | 0 => throw (.unexpected "")
  | fuel + 1 =>
    match ranks with
    | [] => exprOperand fuel
    | operators :: higher => do
      let a ← exprValue fuel higher
      exprFurther fuel operators higher a

/-- The value of an expression that goes on behind its first operand. -/
def exprFurther (fuel : Nat) (operators : List String) (higher : List (List String))
    (a : String) : Expr String :=
  match fuel with
  | 0 => throw (.unexpected "")
  | fuel + 1 => do
    match ← get with
    | operator :: rest =>
      if operators.contains operator then
        if rest.isEmpty then throw (.missingArgument operator)
        set rest
        let b ← exprValue fuel higher
        exprFurther fuel operators higher (← exprApply operator a b)
      else
        return a
    | [] => return a

/-- The value of an operand. -/
def exprOperand (fuel : Nat) : Expr String :=
  match fuel with
  | 0 => throw (.unexpected "")
  | fuel + 1 => do
    match ← get with
    | [] => throw (.missingArgument "")
    | "length" :: s :: rest =>
      set rest
      return toString (Text.utf8Length s.toList)
    | "(" :: rest =>
      set rest
      let a ← exprValue fuel exprRanks
      match ← get with
      | ")" :: rest =>
        set rest
        return a
      | s :: _ => throw (.unexpected s)
      | [] => throw (.missingArgument a)
    | s :: rest =>
      set rest
      return s

end

/-- Writes the value of an expression. -/
def expr : Tool := fun i => do
  let fault := fun (message : String) (code : Nat) => do
    warn i message
    return code
  if i.arguments.isEmpty then
    refuse i 2 "missing operand"
  else
    match (exprValue (64 * i.arguments.length + 64) exprRanks).run i.arguments with
    | .ok (value, []) =>
      printText i (value ++ "\n")
      return codeOf (!isNone value)
    | .ok (_, s :: _) => fault ("syntax error: unexpected argument '" ++ s ++ "'") 2
    | .error (.unexpected s) => fault ("syntax error: unexpected argument '" ++ s ++ "'") 2
    | .error (.missingArgument s) => fault ("syntax error: missing argument after '" ++ s ++ "'") 2
    | .error .notInteger => fault "non-integer argument" 2
    | .error .zeroDivisor => fault "division by zero" 2

end JobShell.Machine.Tool
