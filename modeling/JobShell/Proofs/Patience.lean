import JobShell.Proofs.LineEffects

/-!
# Patience

A wait that brings no news is repeated, and a shell that is stuck has done so until its patience
was over: the line at which it is stuck has called for at least that many waits in vain. Whatever
else it comes to, a more patient shell does the same (`Extends`). So patience decides nothing but
how much of a run is looked at.
-/

namespace JobShell

/-- Whether a call to wait has brought nothing, so that it is repeated. -/
def Exchange.isVain : Exchange → Bool
  | ⟨.wait _ .poll, answer⟩ => answer = .error .interrupted
  | ⟨.wait _ .block, answer⟩ => Shell.isUndecided answer
  | _ => false

/-- How often the shell has waited in vain. -/
def Trace.vainWaits (t : Trace) : Nat := t.countP Exchange.isVain

@[simp] theorem Trace.vainWaits_append (t u : Trace) :
    Trace.vainWaits (t ++ u) = t.vainWaits + u.vainWaits :=
  List.countP_append

namespace Shell

variable {α β : Type} {settings : Settings} {command : Command} {s s' : Session} {t : Trace}
  {text : String}

/-- Every run of a computation that gets stuck has waited in vain until the patience was over. -/
def Tireless (settings : Settings) (x : Shell α) : Prop :=
  ∀ ⦃s t s'⦄, Runs x s t (.error .stuck) s' → settings.patience ≤ t.vainWaits

/-- A computation that is never stuck need not wait. -/
theorem Tireless.of_confined {E : Effect} {F : Failure → Prop} {x : Shell α} (hx : Confined E F x)
    (hF : ¬ F .stuck) : Tireless settings x :=
  fun _ _ _ h => absurd (hx.failure h) hF

theorem Tireless.bind {x : Shell α} {f : α → Shell β} (hx : Tireless settings x)
    (hf : ∀ a, Tireless settings (f a)) : Tireless settings (x >>= f) := by
  intro s t s' h
  rcases runs_bind.1 h with ⟨a, s₁, u, v, rfl, -, hv⟩ | ⟨_, ⟨⟩, ht⟩
  · rw [Trace.vainWaits_append]
    exact (hf a hv).trans (Nat.le_add_left ..)
  · exact hx ht

theorem Tireless.pure (a : α) : Tireless settings (Pure.pure a) :=
  .of_confined (E := still) (F := fun _ => False) (.pure a) id

/-! ## Listing -/

theorem vainWaits_pollChild {pid : Pid} {patience : Nat}
    (h : Runs (pollChild pid patience) s t (.error .stuck) s') : patience ≤ t.vainWaits := by
  induction patience generalizing t with
  | zero => exact Nat.zero_le _
  | succ patience ih =>
    obtain ⟨answer, u, rfl, hu⟩ := runs_ask_bind.1 h
    rcases answer with e | outcome
    · dsimp only at hu
      split at hu
      next he =>
        have hvain : Exchange.isVain ⟨.wait pid .poll, .error e⟩ := by simp [Exchange.isVain, he]
        rw [Trace.vainWaits, List.countP_cons_of_pos hvain]
        exact Nat.succ_le_succ (ih hu)
      next =>
        obtain ⟨v, -, hv⟩ := runs_log_bind.1 hu
        obtain ⟨-, ⟨⟩, -⟩ := runs_pure.1 hv
    · obtain ⟨-, ⟨⟩, -⟩ := runs_pure.1 hu

theorem tireless_poll (pid : Pid) : Tireless settings (poll settings pid) := by
  unfold poll
  split
  · exact fun _ _ _ => vainWaits_pollChild
  · intro s t s' h
    obtain ⟨_, -, ⟨⟩, -⟩ := runs_ask.1 h

theorem tireless_refresh (table : Table) : Tireless settings (table.refresh (poll settings)) := by
  refine .bind ?_ fun _ => .pure _
  induction table.records with
  | nil => exact .pure _
  | cons r rest ih =>
    refine .bind ?_ fun _ => .bind ih fun _ => .pure _
    rw [Table.refreshRecord]
    split
    · exact .pure _
    · exact .bind (tireless_poll r.pid) fun _ => .pure _

theorem tireless_listProcesses : Tireless settings (listProcesses settings) := by
  have hwrites : ∀ pieces, Tireless settings (writeAll pieces) := by
    intro pieces
    have hidle : Confined idle (Failure.IsOfBuiltin .hist []) (writeAll pieces) := idle_writeAll _
    exact .of_confined hidle nofun
  have hget : Tireless settings (get : Shell Session) :=
    .of_confined (.get (E := still) (F := fun _ => False)) id
  refine .bind (.bind hget fun s => ?_) fun _ => hwrites _
  refine .bind (.bind (tireless_refresh s.table) fun _ => .pure _) ?_
  -- From here on nothing is waited for, and nothing fails.
  rintro ⟨entries, table⟩
  refine .of_confined (E := chores) (F := fun _ => False) ?_ id
  refine .bind (confined_logDead chores_inquiry entries) fun _ => ?_
  exact .bind (chores_modifyTable _) fun _ => .pure _

theorem tireless_runBuiltin (builtin : Builtin) (arguments : List String) :
    Tireless settings (runBuiltin settings builtin arguments) := by
  by_cases hquit : builtin = .quit
  · subst hquit
    intro s t s' h
    obtain ⟨-, ⟨⟩, -⟩ := runs_quit.1 h
  · by_cases hprocs : builtin = .procs
    · subst hprocs
      exact .bind tireless_listProcesses fun _ => .pure _
    · exact .of_confined (chores_runBuiltin hquit arguments) hprocs

/-! ## Launching -/

theorem Endless.vainWaits {pid : Pid} {patience : Nat} (h : Endless patience pid t) :
    t.vainWaits = patience := by
  have hall : ∀ e ∈ t, Exchange.isVain e := by
    intro e he
    obtain ⟨answer, rfl, hanswer⟩ := h.undecided e he
    exact hanswer
  rw [Trace.vainWaits, List.countP_eq_length.2 hall, h.length]

theorem tireless_awaitAll (pids : List Pid) : Tireless settings (awaitAll settings pids) := by
  intro s t s' h
  rcases runs_awaitAll h with ⟨_, -, -, ⟨⟩, -⟩ | ⟨_, pid, _, u, v, -, rfl, -, hendless, -, -⟩
  rw [Trace.vainWaits_append, hendless.vainWaits]
  exact Nat.le_add_left ..

theorem vainWaits_launch (hcheck : command.check = .ok ())
    (h : Runs (launch settings command) s t (.error .stuck) s') :
    settings.patience ≤ t.vainWaits := by
  rcases runs_launch_parts hcheck h with
    ⟨pids, waited, u, v, r, rfl, -, -, hv, hr⟩ | ⟨cause, -, ⟨⟩, -⟩
  rcases r with e | _ <;> cases hr
  rw [Trace.vainWaits_append]
  exact (tireless_awaitAll waited hv).trans (Nat.le_add_left ..)

/-! ## Lines -/

theorem Handled.patience_le (h : Handled settings s text t (.error .stuck) s') :
    settings.patience ≤ t.vainWaits := by
  generalize hr : (.error .stuck : Except Failure Flow) = r at h
  cases h with
  | unreadable | empty | unflushed | refused | launched => cases hr
  | builtin parsed asked runs =>
    subst hr
    exact tireless_runBuiltin _ _ runs
  | unlaunched parsed asked checked runs =>
    cases hr
    rw [← List.singleton_append, Trace.vainWaits_append]
    exact (vainWaits_launch checked runs).trans (Nat.le_add_left ..)

/-- A shell that is stuck at a line has waited in vain until its patience was over. -/
theorem patience_le_vainWaits (h : Runs (processLine settings text) s t (.error .stuck) s') :
    settings.patience ≤ t.vainWaits := by
  rcases runs_processLine_cases h with ⟨-, -, -, hr⟩ | ⟨recorded, -, hhandled⟩
  · simp at hr
  · exact hhandled.patience_le

/-! ## More patience -/

/-- Every run of `x` that does not end because the patience is over is a run of `y`. -/
def Extends (x y : Shell α) : Prop :=
  ∀ ⦃s t r s'⦄, Runs x s t r s' → r ≠ .error .stuck → Runs y s t r s'

namespace Extends

theorem refl (x : Shell α) : Extends x x := fun _ _ _ _ h _ => h

/-- Without patience nothing is done. -/
theorem stuck (y : Shell α) : Extends (throw .stuck) y := by
  intro s t r s' h hends
  exact absurd (runs_throw.1 h).2.1 hends

theorem bind {x y : Shell α} {f g : α → Shell β} (hx : Extends x y)
    (hf : ∀ a, Extends (f a) (g a)) : Extends (x >>= f) (y >>= g) := by
  intro s t r s' h hends
  rcases runs_bind.1 h with ⟨a, s₁, u, v, rfl, hu, hv⟩ | ⟨e, rfl, ht⟩
  · exact runs_bind.2 (.inl ⟨a, s₁, u, v, rfl, hx hu nofun, hf a hv hends⟩)
  · exact runs_bind.2 (.inr ⟨e, rfl, hx ht (error_ne_stuck hends)⟩)

end Extends

section

variable {announce : Bool} {probe : Probe} {patience more : Nat}

theorem extends_pollChild (hmore : patience ≤ more) (pid : Pid) :
    Extends (pollChild pid patience) (pollChild pid more) := by
  induction patience generalizing more with
  | zero => exact .stuck _
  | succ patience ih =>
    obtain ⟨more, rfl⟩ := Nat.exists_eq_add_of_le' (Nat.le_of_add_left_le hmore)
    refine .bind (.refl _) fun answer => ?_
    rcases answer with e | outcome
    · dsimp only
      split
      · exact ih (Nat.le_of_succ_le_succ hmore)
      · exact .refl _
    · exact .refl _

theorem extends_awaitChild (hmore : patience ≤ more) (pid : Pid) :
    Extends (awaitChild pid patience) (awaitChild pid more) := by
  induction patience generalizing more with
  | zero => exact .stuck _
  | succ patience ih =>
    obtain ⟨more, rfl⟩ := Nat.exists_eq_add_of_le' (Nat.le_of_add_left_le hmore)
    have hagain := ih (Nat.le_of_succ_le_succ hmore)
    refine .bind (.refl _) fun answer => ?_
    rcases answer with e | outcome
    · dsimp only
      split
      · exact hagain
      · exact .refl _
    · dsimp only
      split
      · exact hagain
      · exact hagain
      · exact .refl _

theorem extends_poll (hmore : patience ≤ more) (pid : Pid) :
    Extends (poll ⟨announce, probe, patience⟩ pid) (poll ⟨announce, probe, more⟩ pid) := by
  cases probe with
  | children => exact extends_pollChild hmore pid
  | observer => exact .refl _

theorem extends_refresh (hmore : patience ≤ more) (table : Table) :
    Extends (table.refresh (poll ⟨announce, probe, patience⟩))
      (table.refresh (poll ⟨announce, probe, more⟩)) := by
  refine .bind ?_ fun _ => .refl _
  induction table.records with
  | nil => exact .refl _
  | cons r rest ih =>
    refine .bind ?_ fun _ => .bind ih fun _ => .refl _
    rw [Table.refreshRecord, Table.refreshRecord]
    split
    · exact .refl _
    · exact .bind (extends_poll hmore r.pid) fun _ => .refl _

theorem extends_listProcesses (hmore : patience ≤ more) :
    Extends (listProcesses ⟨announce, probe, patience⟩) (listProcesses ⟨announce, probe, more⟩) := by
  refine .bind (.bind (.refl _) fun s => ?_) fun _ => .refl _
  exact .bind (.bind (extends_refresh hmore s.table) fun _ => .refl _) fun _ => .refl _

theorem extends_runBuiltin (hmore : patience ≤ more) (builtin : Builtin)
    (arguments : List String) :
    Extends (runBuiltin ⟨announce, probe, patience⟩ builtin arguments)
      (runBuiltin ⟨announce, probe, more⟩ builtin arguments) := by
  cases builtin with
  | procs => exact .bind (extends_listProcesses hmore) fun _ => .refl _
  | cd | hist | control | quit => exact .refl _

theorem extends_awaitAll (hmore : patience ≤ more) (pids : List Pid) :
    Extends (awaitAll ⟨announce, probe, patience⟩ pids)
      (awaitAll ⟨announce, probe, more⟩ pids) := by
  induction pids with
  | nil => exact .refl _
  | cons pid rest ih =>
    refine .bind (extends_awaitChild hmore pid) fun status => ?_
    exact .bind (.refl _) fun _ => .bind (.refl _) fun _ => ih

theorem spawn_eq (patience more : Nat) :
    spawn ⟨announce, probe, patience⟩ = spawn ⟨announce, probe, more⟩ := by
  funext stage role pipe
  refine congrArg (ask _ >>= ·) (funext fun answer => ?_)
  rcases answer with e | pid <;> rfl

/-- Making the processes has nothing to do with patience. -/
theorem spawnStages_eq (patience more : Nat) :
    spawnStages ⟨announce, probe, patience⟩ = spawnStages ⟨announce, probe, more⟩ := by
  funext command
  unfold spawnStages spawnPair
  rw [spawn_eq patience more]

theorem extends_launch (hmore : patience ≤ more) (command : Command) :
    Extends (launch ⟨announce, probe, patience⟩ command)
      (launch ⟨announce, probe, more⟩ command) := by
  unfold launch
  rw [spawnStages_eq patience more]
  rcases command.check with e | _
  · exact .refl _
  · refine .bind (.refl _) fun pids => ?_
    dsimp only
    split
    · exact .bind (extends_awaitAll hmore pids) fun _ => .refl _
    · exact .refl _

theorem extends_execute (hmore : patience ≤ more) (command : Command) :
    Extends (execute ⟨announce, probe, patience⟩ command)
      (execute ⟨announce, probe, more⟩ command) := by
  unfold execute
  cases builtin? command with
  | some builtin => exact extends_runBuiltin hmore builtin command.first.arguments
  | none =>
    refine .bind (.refl _) fun _ => ?_
    exact .bind (extends_launch hmore command) fun _ => .refl _

/-- A line that is done is processed in the same way by a more patient shell. -/
theorem extends_processLine (hmore : patience ≤ more) (raw : String) :
    Extends (processLine ⟨announce, probe, patience⟩ raw)
      (processLine ⟨announce, probe, more⟩ raw) := by
  unfold processLine
  dsimp only
  split
  · exact .refl _
  · refine .bind (.refl _) fun s => ?_
    rcases s.history.resolve (withoutLineEnd raw) with e | resolved
    · exact .refl _
    · refine .bind (.refl _) fun _ => ?_
      rcases Command.parse resolved with (e | _) | _ | command
      · exact .refl _
      · exact .refl _
      · exact .refl _
      · exact extends_execute hmore command

end

end Shell

end JobShell
