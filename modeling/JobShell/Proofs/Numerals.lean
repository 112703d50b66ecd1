import JobShell.Pid
import Mathlib.Data.Nat.Digits.Defs

/-!
# Numerals

A numeral is a nonempty string of decimal digits, be it ever so long and with ever so many zeros in
front. References to lines and the arguments of control commands are read as numerals, and the
numbers that the shell prints are numerals again. Main statements: `Pid.digits?_eq_some_iff` and
`numeral_toString`.
-/

namespace JobShell

/-- Decimal digits and what they are worth by their places, the last one in the place of the
units. -/
structure Numeral (cs : List Char) (value : Nat) : Prop where
  ne_nil : cs ≠ []
  digits : ∀ c ∈ cs, '0' ≤ c ∧ c ≤ '9'
  value_eq : value = Nat.ofDigits 10 (cs.reverse.map fun c => c.toNat - '0'.toNat)

namespace Pid

theorem isDigit_iff {c : Char} : c.isDigit = true ↔ '0' ≤ c ∧ c ≤ '9' := by
  rw [Char.isDigit, Bool.and_eq_true, decide_eq_true_eq, decide_eq_true_eq]
  exact Iff.rfl

/-- Reading the digits from the first one on gives each its place. -/
theorem digitsValue_eq_ofDigits (cs : List Char) :
    digitsValue cs = Nat.ofDigits 10 (cs.reverse.map fun c => c.toNat - '0'.toNat) := by
  rw [Nat.ofDigits_eq_foldr, List.foldr_map, List.foldr_reverse, digitsValue]
  congr 1
  funext n c
  rw [Nat.cast_id, Nat.add_comm]

theorem digits?_eq_some_iff {cs : List Char} {n : Nat} : digits? cs = some n ↔ Numeral cs n := by
  have hdigits : cs.all Char.isDigit = true ↔ ∀ c ∈ cs, '0' ≤ c ∧ c ≤ '9' := by
    simp only [List.all_eq_true, isDigit_iff]
  rw [digits?, Option.ite_none_right_eq_some, Option.some.injEq, digitsValue_eq_ofDigits, hdigits]
  constructor
  · rintro ⟨⟨hne, hall⟩, rfl⟩
    exact ⟨hne, hall, rfl⟩
  · rintro ⟨hne, hall, rfl⟩
    exact ⟨⟨hne, hall⟩, rfl⟩

end Pid

namespace Numeral

variable {cs : List Char} {n : Nat}

theorem all_isDigit (h : Numeral cs n) : ∀ c ∈ cs, c.isDigit = true :=
  fun c hc => Pid.isDigit_iff.2 (h.digits c hc)

/-- A numeral has no sign in front of it. -/
theorem ne_cons (h : Numeral cs n) {c : Char} (hc : c.isDigit = false) (rest : List Char) :
    cs ≠ c :: rest := by
  rintro rfl
  have hdigit := h.all_isDigit c List.mem_cons_self
  exact absurd hdigit (by simp [hc])

end Numeral

/-- A number is printed as a numeral. -/
theorem numeral_toString (n : Nat) : Numeral (toString n).toList n := by
  have htext : (toString n).toList = Nat.toDigits 10 n := Nat.toList_repr
  have hall : ∀ c ∈ Nat.toDigits 10 n, c.isDigit = true := fun c hc =>
    Nat.isDigit_of_mem_toDigits (by decide) (by decide) hc
  have hvalue : Pid.digitsValue (Nat.toDigits 10 n) = n :=
    Nat.ofDigitChars_toDigits (by decide) (by decide)
  rw [htext, ← Pid.digits?_eq_some_iff, Pid.digits?, hvalue]
  exact if_pos ⟨Nat.toDigits_ne_nil, List.all_eq_true.2 hall⟩

end JobShell
