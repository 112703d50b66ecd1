import JobShell.System

/-!
# Traces

A trace is what a program and the system have said to each other: the calls in order, each with the
answer that it got. `Program.Runs` relates a program to every trace it can leave, whatever the
system answers, and to the value it ends with; `runs_bind` takes the trace of a sequence apart.
-/

namespace JobShell

/-- A call with the answer that it got. -/
structure Exchange where
  call : Call
  answer : call.Answer

/-- The calls of a program in order. -/
abbrev Trace : Type := List Exchange

/-- The answers in a trace are those of a system, which sees all that has been said before. -/
def Trace.IsAnsweredBy (system : Trace → (c : Call) → c.Answer) (t : Trace) : Prop :=
  ∀ before c answer after, t = before ++ ⟨c, answer⟩ :: after → answer = system before c

namespace Program

variable {α β : Type}

/-- If the system answers as the trace says, the program makes the calls of the trace and ends with
the value. -/
inductive Runs : Program α → Trace → α → Prop where
  | done (a : α) : Runs (done a) [] a
  | call {c : Call} {next : c.Answer → Program α} (answer : c.Answer) {t : Trace} {a : α}
      (rest : Runs (next answer) t a) : Runs (call c next) (⟨c, answer⟩ :: t) a

@[simp] theorem runs_done {a b : α} {t : Trace} : Runs (done a) t b ↔ t = [] ∧ b = a := by
  constructor
  · intro h; cases h; exact ⟨rfl, rfl⟩
  · rintro ⟨rfl, rfl⟩; exact .done _

theorem runs_call {c : Call} {next : c.Answer → Program α} {t : Trace} {a : α} :
    Runs (call c next) t a ↔ ∃ answer u, t = ⟨c, answer⟩ :: u ∧ Runs (next answer) u a := by
  constructor
  · intro h
    cases h with
    | call answer rest => exact ⟨answer, _, rfl, rest⟩
  · rintro ⟨answer, u, rfl, h⟩
    exact .call answer h

/-- A sequence leaves the traces of its parts one behind the other. -/
theorem runs_bind {p : Program α} {f : α → Program β} {t : Trace} {b : β} :
    Runs (p >>= f) t b ↔ ∃ a u v, t = u ++ v ∧ Runs p u a ∧ Runs (f a) v b := by
  induction p generalizing t with
  | done a =>
    simp only [done_bind, runs_done]
    constructor
    · intro h
      exact ⟨a, [], t, rfl, ⟨rfl, rfl⟩, h⟩
    · rintro ⟨a, u, v, rfl, ⟨rfl, rfl⟩, h⟩
      exact h
  | call c next ih =>
    simp only [call_bind, runs_call]
    constructor
    · rintro ⟨answer, u, rfl, h⟩
      obtain ⟨a, v, w, rfl, hv, hw⟩ := (ih answer).1 h
      exact ⟨a, ⟨c, answer⟩ :: v, w, rfl, ⟨answer, v, rfl, hv⟩, hw⟩
    · rintro ⟨a, u, v, rfl, ⟨answer, w, rfl, hw⟩, hv⟩
      exact ⟨answer, w ++ v, rfl, (ih answer).2 ⟨a, w, v, rfl, hw, hv⟩⟩

/-- A system that answers every call takes the program along some trace to its value. -/
theorem exists_answered (system : Trace → (c : Call) → c.Answer) (p : Program α) :
    ∃ t a, Runs p t a ∧ t.IsAnsweredBy system := by
  induction p generalizing system with
  | done a =>
    refine ⟨[], a, .done a, fun before c answer after heq => ?_⟩
    exact absurd heq (List.append_ne_nil_of_right_ne_nil before (List.cons_ne_nil _ _)).symm
  | call c next ih =>
    obtain ⟨t, a, hruns, hanswered⟩ :=
      ih (system [] c) fun before => system (⟨c, system [] c⟩ :: before)
    refine ⟨⟨c, system [] c⟩ :: t, a, .call _ hruns, fun before c' answer after heq => ?_⟩
    cases before with
    | nil =>
      cases heq
      rfl
    | cons e before =>
      cases heq
      exact hanswered before c' answer after rfl

end Program

end JobShell
