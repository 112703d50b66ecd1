/-!
# Process numbers

A process number is a positive number of 31 bits. The text that names one may carry a plus sign
and leading zeros.
-/

namespace JobShell

/-- The number by which the system knows a process. -/
structure Pid where
  number : Int
  deriving DecidableEq, Repr, Inhabited

namespace Pid

/-- The largest process number there can be. -/
def max : Int := 0x7FFFFFFF

/-- The number as digits, with a minus sign before a negative one. -/
def text (p : Pid) : String := toString p.number

/-- The value of a string of decimal digits, the first one leading. -/
def digitsValue (cs : List Char) : Nat := cs.foldl (fun n c => 10 * n + (c.toNat - '0'.toNat)) 0

/-- The value of `cs` if it is a nonempty string of decimal digits. -/
def digits? (cs : List Char) : Option Nat :=
  if cs ≠ [] ∧ cs.all Char.isDigit then some (digitsValue cs) else none

/-- The process number that `s` names: digits, perhaps after a plus sign, with a value from 1 up
to `max`. -/
def ofText? (s : String) : Option Pid :=
  let digits := match s.toList with
    | '+' :: cs => cs
    | cs => cs
  match digits? digits with
  | some n => if 1 ≤ (n : Int) ∧ (n : Int) ≤ max then some ⟨n⟩ else none
  | none => none

end Pid

end JobShell
