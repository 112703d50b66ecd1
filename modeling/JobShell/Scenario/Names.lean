import JobShell.Pid

/-!
# Names for process numbers

Process numbers differ from run to run, so a transcript gives them names: `$1` for the first one it
meets, `$2` for the second. Numbers are recognized by what stands before them, or, in a process
listing, by their column.
-/

namespace JobShell.Scenario

/-- The process numbers that have names, in the order of their names. -/
abbrev Names : Type := List Nat

namespace Names

/-- The largest number that the system gives to a process. Larger ones are only made up. -/
def largest : Nat := 4194304

/-- The name with a place. -/
def nameAt (place : Nat) : String := "$" ++ toString (place + 1)

/-- A number as a transcript shows it. -/
def show' (names : Names) (n : Nat) : String :=
  match names.idxOf? n with
  | some place => nameAt place
  | none => toString n

/-- A process number as a transcript shows it. -/
def showPid (names : Names) (pid : Pid) : String :=
  match pid.number with
  | .ofNat n => names.show' n
  | .negSucc _ => pid.text

/-- Gives a number a name, if it has none and may have one. -/
def meet (names : Names) (n : Nat) : Names :=
  if largest < n || names.contains n then names else names ++ [n]

/-- What stands before a process number. -/
def marks : List (List Char) := ["PID: ".toList, "pid=".toList, "Pid(".toList]

/-- A text taken apart: plain characters, and the numbers that stand behind a mark. -/
def pieces : Nat → List Char → List (Char ⊕ Nat)
  | 0, _ => []
  | _, [] => []
  | fuel + 1, c :: cs =>
    match marks.find? (·.isPrefixOf (c :: cs)) with
    | none => .inl c :: pieces fuel cs
    | some mark =>
      let rest := (c :: cs).drop mark.length
      match Pid.digits? (rest.takeWhile Char.isDigit) with
      | none => .inl c :: pieces fuel cs
      | some n => mark.map .inl ++ .inr n :: pieces fuel (rest.dropWhile Char.isDigit)

/-- The numbers behind a mark. -/
def mentioned (s : String) : List Nat :=
  (pieces s.length s.toList).filterMap fun
    | .inr n => some n
    | .inl _ => none

/-- A text with names for the numbers behind a mark. -/
def rename (names : Names) (s : String) : String :=
  String.ofList ((pieces s.length s.toList).flatMap fun
    | .inr n => (names.show' n).toList
    | .inl c => [c])

/-- A line of a process listing taken apart: what stands before the process number, the number,
and what stands behind it. -/
def listed? (line : String) : Option (String × Nat × String) :=
  let cs := line.toList
  let index := cs.takeWhile Char.isDigit
  match cs.drop index.length with
  | ' ' :: ' ' :: rest =>
    let digits := rest.takeWhile Char.isDigit
    match rest.drop digits.length with
    | ' ' :: ' ' :: behind =>
      if index.isEmpty then none
      else (Pid.digits? digits).map fun n =>
        (String.ofList index ++ "  ", n, "  " ++ String.ofList behind)
    | _ => none
  | _ => none

/-- The lines of a text, put together again after `f`. -/
def mapLines (f : String → String) (s : String) : String :=
  "\n".intercalate ((s.splitOn "\n").map f)

/-- A text with names for the numbers in the lines of process listings. -/
def renameListed (names : Names) (s : String) : String :=
  mapLines (fun line =>
    match listed? line with
    | some (before, n, behind) => before ++ names.show' n ++ behind
    | none => line) s

end Names

end JobShell.Scenario
