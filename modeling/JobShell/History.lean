import JobShell.Error
import JobShell.Pid

/-!
# History

The lines typed so far, as far as they are kept, and the references by which a line stands for an
earlier one: two exclamation marks for the last line, an exclamation mark and a number for the
line of that number.
-/

namespace JobShell

/-- The last lines typed, oldest first, and how many of them are kept. -/
structure History where
  capacity : Nat
  lines : List String
  deriving DecidableEq, Repr, Inhabited

namespace History

/-- How many lines a shell keeps. -/
def defaultCapacity : Nat := 20

/-- A history without lines that keeps up to `capacity` of them. -/
def empty (capacity : Nat) : History := ⟨capacity, []⟩

/-- The last `n` of `xs`, all if they are fewer. -/
def lastN {α : Type} (n : Nat) (xs : List α) : List α := xs.drop (xs.length - n)

/-- The history after a line has been typed: the oldest line makes room for it. -/
def push (h : History) (line : String) : History :=
  { h with lines := lastN h.capacity (h.lines ++ [line]) }

/-- The history without its lines. -/
def clear (h : History) : History := { h with lines := [] }

/-- How many lines are kept. -/
def length (h : History) : Nat := h.lines.length

/-- Whether no line is kept. -/
def isEmpty (h : History) : Bool := h.lines.isEmpty

/-- The line typed last. -/
def last? (h : History) : Option String := h.lines.getLast?

/-- The line with number `n`; the oldest kept line has number 1. -/
def get? (h : History) (n : Nat) : Option String := if n = 0 then none else h.lines[n - 1]?

/-- The lines with their numbers, which count from 1. -/
def numbered (h : History) : List (Nat × String) := h.lines.mapIdx fun i line => (i + 1, line)

/-- The line that `line` stands for. Digits after an exclamation mark are a line number, and what
follows them does not matter; any line that is no reference stands for itself. -/
def resolve (h : History) (line : String) : Except ShellError String :=
  match line.toList with
  | ['!', '!'] =>
    match h.last? with
    | some kept => .ok kept
    | none => .error .noHistory
  | '!' :: rest =>
    match Pid.digits? (rest.takeWhile Char.isDigit) with
    | some n =>
      match h.get? n with
      | some kept => .ok kept
      | none => .error .invalidHistoryReference
    | none => .ok line
  | _ => .ok line

@[simp] theorem lines_empty (capacity : Nat) : (empty capacity).lines = [] := rfl

@[simp] theorem lines_clear (h : History) : h.clear.lines = [] := rfl

@[simp] theorem capacity_push (h : History) (line : String) :
    (h.push line).capacity = h.capacity := rfl

theorem length_lastN {α : Type} (n : Nat) (xs : List α) :
    (lastN n xs).length = min n xs.length := by
  simp only [lastN, List.length_drop]; omega

end History

end JobShell
