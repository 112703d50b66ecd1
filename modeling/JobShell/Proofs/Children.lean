import JobShell.Proofs.Monitor
import Mathlib.Data.Finset.Basic

/-!
# The children of the shell

The system gives a new process a number that no child has whose end it has not reported yet; the
number of a child whose end has been reported is free again. `Children.monitor` watches a program
under this rule. What it knows is the set of children that have not been reported dead, and it
permits a program to wait for these only.
-/

namespace JobShell

namespace Exchange

/-- Whether the answer to a wait reports the end of the child. The end by a signal without a name
comes as the complaint about an invalid argument. -/
def reportsEnd : Except Errno WaitStatus → Bool
  | .ok (.exited _) | .ok (.signaled _ _) => true
  | .ok _ => false
  | .error e => e = .invalid

/-- The process that was made. -/
def launched? : Exchange → Option Pid
  | ⟨.fork _, .ok pid⟩ => some pid
  | _ => none

/-- The child whose end was reported. -/
def ended? : Exchange → Option Pid
  | ⟨.wait pid _, answer⟩ => if reportsEnd answer then some pid else none
  | _ => none

/-- The process that was polled, unless the poll was interrupted and has to be repeated. -/
def polled? : Exchange → Option Pid
  | ⟨.wait pid .poll, .ok _⟩ => some pid
  | ⟨.wait pid .poll, .error e⟩ => if e = .interrupted then none else some pid
  | _ => none

theorem ended?_eq_some_iff {e : Exchange} {pid : Pid} :
    e.ended? = some pid ↔ ∃ mode answer, e = ⟨.wait pid mode, answer⟩ ∧ reportsEnd answer := by
  constructor
  · intro h
    unfold ended? at h
    split at h
    next child mode answer =>
      obtain ⟨hend, hchild⟩ := Option.ite_none_right_eq_some.1 h
      cases hchild
      exact ⟨mode, answer, rfl, hend⟩
    next => cases h
  · intro h
    obtain ⟨mode, answer, rfl, hend⟩ := h
    exact if_pos hend

theorem reportsEnd_ok (outcome : WaitStatus) :
    reportsEnd (.ok outcome) = decide (outcome.status? = some .terminated) := by
  cases outcome <;> rfl

end Exchange

namespace Trace

/-- The processes made, the oldest first. -/
def launched (t : Trace) : List Pid := t.filterMap Exchange.launched?

/-- The processes polled, in order. -/
def polled (t : Trace) : List Pid := t.filterMap Exchange.polled?

@[simp] theorem launched_append (t u : Trace) : launched (t ++ u) = launched t ++ launched u :=
  List.filterMap_append

@[simp] theorem polled_append (t u : Trace) : polled (t ++ u) = polled t ++ polled u :=
  List.filterMap_append

end Trace

namespace Children

/-- The system as a parent sees it. The state is the set of children whose end has not been
reported: a new process joins it, and a child leaves it when its end is reported and not before,
since no child is discarded unseen. Waiting for one of them fails only because of an interruption,
or reports an end. -/
def monitor : Monitor (Finset Pid) where
  permits children
    | .wait pid _ => pid ∈ children
    | _ => True
  admits children
    | .fork _, .ok pid => pid ∉ children
    | .wait pid _, .error e => pid ∈ children → e = .interrupted ∨ e = .invalid
    | _, _ => True
  step children c answer :=
    match Exchange.launched? ⟨c, answer⟩, Exchange.ended? ⟨c, answer⟩ with
    | some pid, _ => insert pid children
    | none, some pid => children.erase pid
    | none, none => children

variable {children : Finset Pid}

/-- The children after one has been seen in a status, or was without news. -/
def seen (children : Finset Pid) (pid : Pid) (status : Option Status) : Finset Pid :=
  if status = some .terminated then children.erase pid else children

theorem step_wait {pid : Pid} {mode : WaitMode} {answer : Except Errno WaitStatus} :
    monitor.step children (.wait pid mode) answer =
      if Exchange.reportsEnd answer then children.erase pid else children := by
  cases h : Exchange.reportsEnd answer <;> simp [monitor, Exchange.launched?, Exchange.ended?, h]

theorem step_wait_ok (children : Finset Pid) (pid : Pid) (mode : WaitMode)
    (outcome : WaitStatus) :
    monitor.step children (.wait pid mode) (.ok outcome) = seen children pid outcome.status? := by
  simp [step_wait, Exchange.reportsEnd_ok, seen]

theorem mem_of_mem_step {pid : Pid} {e : Exchange}
    (h : pid ∈ monitor.step children e.call e.answer) :
    pid ∈ children ∨ e.launched? = some pid := by
  simp only [monitor] at h
  split at h
  next new _ hnew =>
    rcases Finset.mem_insert.1 h with rfl | h
    · exact .inr hnew
    · exact .inl h
  next => exact .inl (Finset.mem_of_mem_erase h)
  next => exact .inl h

/-- A process that is no child becomes one only by being made. -/
theorem mem_of_mem_after {pid : Pid} {t : Trace} (h : pid ∈ monitor.after children t) :
    pid ∈ children ∨ pid ∈ t.launched := by
  induction t generalizing children with
  | nil => exact .inl h
  | cons e t ih =>
    rw [Trace.launched, List.filterMap_cons]
    rcases ih h with hstep | hlater
    · rcases mem_of_mem_step hstep with h | hnew
      · exact .inl h
      · simp [hnew]
    · refine .inr ?_
      split
      · exact hlater
      · exact List.mem_cons_of_mem _ hlater

/-- The end of a process is reported once. If a program waits only for what it may, then between
two reports with the same number a new process is made that has it. -/
theorem mem_launched_of_ended {before between after : Trace} {e e' : Exchange} {pid : Pid}
    (h : monitor.Permitted children (before ++ e :: between ++ e' :: after))
    (he : e.ended? = some pid) (he' : e'.ended? = some pid) : pid ∈ between.launched := by
  obtain ⟨mode, answer, rfl, hend⟩ := Exchange.ended?_eq_some_iff.1 he
  obtain ⟨mode', answer', rfl, -⟩ := Exchange.ended?_eq_some_iff.1 he'
  -- The second wait was permitted, so its process was a child again.
  have hwaited := ((monitor.permitted_append ..).1 h).2.1
  rw [monitor.after_append, Monitor.after, step_wait, if_pos hend] at hwaited
  rcases mem_of_mem_after hwaited with hleft | hnew
  · exact absurd hleft (Finset.notMem_erase pid _)
  · exact hnew

end Children

/-! ## Computations that leave the children alone -/

/-- Whether a call neither makes a process nor waits for one. -/
def Call.isRoutine : Call → Bool
  | fork _ | wait _ _ => false
  | _ => true

namespace Shell

variable {α β : Type}

/-- A computation that makes and waits for no process and leaves the session as it is. -/
def Quiet (x : Shell α) : Prop :=
  ∀ children s, Ensures Children.monitor (fun children' s' t _ =>
    children' = children ∧ s' = s ∧ t.launched = [] ∧ t.polled = []) x children s

namespace Quiet

theorem pure (a : α) : Quiet (Pure.pure a) := fun _ _ =>
  (ensures_pure a).2 ⟨rfl, rfl, rfl, rfl⟩

theorem throw (e : Failure) : Quiet (MonadExcept.throw e : Shell α) := fun _ _ =>
  (ensures_throw e).2 fun _ => ⟨rfl, rfl, rfl, rfl⟩

theorem fail (e : ShellError) : Quiet (Shell.fail e : Shell α) := .throw _

theorem ask {c : Call} (h : c.isRoutine) : Quiet (Shell.ask c) := by
  intro children s
  rw [ensures_ask]
  -- The monitor tells calls apart by their kind only.
  cases c <;> first | exact ⟨trivial, fun _ _ => ⟨rfl, rfl, rfl, rfl⟩⟩ | cases h

theorem bind {x : Shell α} {f : α → Shell β} (hx : Quiet x) (hf : ∀ a, Quiet (f a)) :
    Quiet (x >>= f) := by
  intro children s
  refine (hx children s).bind ?_ fun _ _ _ _ h => h
  intro _ _ t a h
  obtain ⟨rfl, rfl, hlaunched, hpolled⟩ := h
  refine (hf a _ _).mono ?_
  intro _ _ u _ h
  obtain ⟨rfl, rfl, hlaunched', hpolled'⟩ := h
  rw [Trace.launched_append, Trace.polled_append, hlaunched, hpolled]
  exact ⟨rfl, rfl, hlaunched', hpolled'⟩

theorem get : Quiet (MonadState.get : Shell Session) := fun _ _ =>
  ensures_get.2 ⟨rfl, rfl, rfl, rfl⟩

theorem log (e : Log.Event) : Quiet (Shell.log e) := .ask rfl

theorem write (text : String) : Quiet (Shell.write text) := by
  refine .bind (.ask rfl) fun answer => ?_
  rcases answer with e | _
  · exact .fail _
  · exact .pure _

theorem flush : Quiet Shell.flush := by
  refine .bind (.ask rfl) fun answer => ?_
  rcases answer with e | _
  · exact .fail _
  · exact .pure _

theorem forM {γ : Type} (as : List γ) {f : γ → Shell Unit} (hf : ∀ a, Quiet (f a)) :
    Quiet (as.forM f) := by
  induction as with
  | nil => exact .pure _
  | cons a as ih => exact .bind (hf a) fun _ => ih

end Quiet

end Shell

end JobShell
