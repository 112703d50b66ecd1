import JobShell.Launch
import JobShell.Proofs.Runs
import JobShell.Proofs.Tally

/-!
# Launching

What launching a command does, whatever the system answers and whatever stands in the table. Main
statement: `launch_outcome` lists all ways in which the launch of a command that has passed its
check can go, each with its trace, its result and the table at the end.
-/

namespace JobShell

namespace Exchange

/-- The process that was made, with the command that it was made for. -/
def birth? : Exchange → Option (Pid × Command)
  | ⟨.fork launch, .ok pid⟩ => some (pid, .single launch.stage)
  | _ => none

end Exchange

namespace Trace

/-- The processes made, the oldest first. -/
def births (t : Trace) : List (Pid × Command) := t.filterMap Exchange.birth?

@[simp] theorem births_append (t u : Trace) : births (t ++ u) = births t ++ births u :=
  List.filterMap_append

end Trace

namespace Table

/-- The table after processes have been entered one after the other. -/
def enter (t : Table) (births : List (Pid × Command)) : Table :=
  births.foldl (fun t birth => t.insert birth.1 birth.2) t

/-- The table after processes have been found in statuses one after the other. -/
def observeAll (t : Table) (found : List (Pid × Status)) : Table :=
  found.foldl (fun t f => t.observe f.1 f.2) t

theorem records_enter (t : Table) (births : List (Pid × Command)) :
    (t.enter births).records =
      (births.map fun birth => Record.launched birth.1 birth.2).reverse ++ t.records := by
  induction births generalizing t with
  | nil => rfl
  | cons birth rest ih =>
    rw [List.map_cons, List.reverse_cons, List.append_assoc]
    exact ih _

/-- A process is found by its number behind newer ones that have other numbers. -/
theorem observe_enter (t : Table) (births : List (Pid × Command)) {pid : Pid} (command : Command)
    (hnew : pid ∉ births.map (·.1)) (status : Status) :
    ((t.insert pid command).enter births).observe pid status =
      enter ⟨⟨pid, command, status, none⟩ :: t.records⟩ births := by
  have hother : ∀ r ∈ (births.map fun birth => Record.launched birth.1 birth.2).reverse,
      r.pid ≠ pid := by
    intro r hr heq
    rw [List.mem_reverse] at hr
    obtain ⟨birth, hbirth, rfl⟩ := List.mem_map.1 hr
    exact hnew (heq ▸ List.mem_map_of_mem hbirth)
  rw [observe, records_enter, records_insert]
  refine congrArg Table.mk (Eq.trans ?_ (records_enter _ births).symm)
  exact updateFirst_append_cons (f := (·.settle status)) (r := .launched pid command) hother

/-- Processes that have just been entered are found by their numbers, whatever stands behind
them. -/
theorem observeAll_enter (t : Table) (found : List (Pid × Command × Status))
    (hdistinct : (found.map (·.1)).Nodup) :
    (t.enter (found.map fun f => (f.1, f.2.1))).observeAll (found.map fun f => (f.1, f.2.2)) =
      ⟨(found.map fun f => ⟨f.1, f.2.1, f.2.2, none⟩).reverse ++ t.records⟩ := by
  induction found generalizing t with
  | nil => rfl
  | cons f rest ih =>
    obtain ⟨hnew, hdistinct⟩ := List.nodup_cons.1 hdistinct
    have hfirst := observe_enter t (rest.map fun f => (f.1, f.2.1)) f.2.1
      (show f.1 ∉ _ by simpa using hnew) f.2.2
    rw [List.map_cons, List.map_cons, List.map_cons, List.reverse_cons, List.append_assoc]
    refine Eq.trans ?_ (ih ⟨⟨f.1, f.2.1, f.2.2, none⟩ :: t.records⟩ hdistinct)
    exact congrArg (observeAll · _) hfirst

end Table

namespace Shell

variable {settings : Settings} {s s' : Session} {t : Trace}

/-- What is said when no process can be made for a stage. -/
def stillbirthTrace (settings : Settings) (stage : Stage) (role : Role) (pipe : Option Pipe)
    (e : Errno) : Trace :=
  [⟨.fork ⟨stage, role, pipe, settings.announce⟩, .error e⟩]

/-- What is said when a process is made and entered into the table. -/
def birthTrace (settings : Settings) (stage : Stage) (role : Role) (pipe : Option Pipe)
    (pid : Pid) : Trace :=
  ⟨.fork ⟨stage, role, pipe, settings.announce⟩, .ok pid⟩ ::
    (if settings.announce then
      [⟨.complain ("PID: " ++ pid.text), ()⟩, ⟨.complain ("Executing command: " ++ stage.name), ()⟩]
    else []) ++
    [⟨.log (.spawned pid (.single stage) role), ()⟩, ⟨.log (.tracking pid (.single stage)), ()⟩]

theorem births_birthTrace (settings : Settings) (stage : Stage) (role : Role) (pipe : Option Pipe)
    (pid : Pid) : (birthTrace settings stage role pipe pid).births = [(pid, .single stage)] := by
  rw [birthTrace]
  split <;> rfl

/-- The pipe does not count among the births. -/
theorem births_writer (settings : Settings) (first : Stage) (pipe : Pipe) (writer : Pid)
    (t : Trace) :
    Trace.births (⟨.makePipe, .ok pipe⟩ :: birthTrace settings first .pipeWriter (some pipe) writer
      ++ t ++ [⟨.closePipe pipe, ()⟩]) = (writer, .single first) :: t.births := by
  have hclosed : Trace.births [⟨.closePipe pipe, ()⟩] = [] := rfl
  rw [Trace.births_append, Trace.births_append, hclosed, List.append_nil]
  exact congrArg (· ++ t.births) (births_birthTrace settings first .pipeWriter (some pipe) writer)

theorem runs_enter {pid : Pid} {command : Command} {e : Log.Event}
    {r : Except Failure (Except Errno Pid)}
    (h : Runs (do log e; track pid command; return (.ok pid : Except Errno Pid)) s t r s') :
    t = [⟨.log e, ()⟩, ⟨.log (.tracking pid command), ()⟩] ∧ r = .ok (.ok pid) ∧
      s' = { s with table := s.table.insert pid command } := by
  obtain ⟨u, rfl, hu⟩ := runs_log_bind.1 h
  rw [track, bind_assoc] at hu
  obtain ⟨v, rfl, hv⟩ := runs_log_bind.1 hu
  rw [runs_modifyTable_bind, runs_pure] at hv
  obtain ⟨rfl, rfl, rfl⟩ := hv
  exact ⟨rfl, rfl, rfl⟩

/-- A process is made and entered into the table, or it is not made and nothing else happens. -/
theorem runs_spawn {stage : Stage} {role : Role} {pipe : Option Pipe}
    {r : Except Failure (Except Errno Pid)} (h : Runs (spawn settings stage role pipe) s t r s') :
    (∃ e, t = stillbirthTrace settings stage role pipe e ∧ r = .ok (.error e) ∧ s' = s) ∨
      ∃ pid, t = birthTrace settings stage role pipe pid ∧ r = .ok (.ok pid) ∧
        s' = { s with table := s.table.insert pid (.single stage) } := by
  obtain ⟨answer, u, rfl, hu⟩ := runs_ask_bind.1 h
  rcases answer with e | pid
  · obtain ⟨rfl, rfl, rfl⟩ := runs_pure.1 hu
    exact .inl ⟨e, rfl, rfl, rfl⟩
  · refine .inr ⟨pid, ?_⟩
    dsimp only at hu
    rw [birthTrace]
    by_cases hannounce : settings.announce
    · rw [if_pos hannounce] at hu ⊢
      obtain ⟨_, v, rfl, hv⟩ := runs_ask_bind.1 hu
      obtain ⟨_, w, rfl, hw⟩ := runs_ask_bind.1 hv
      obtain ⟨rfl, rfl, rfl⟩ := runs_enter hw
      exact ⟨rfl, rfl, rfl⟩
    · rw [if_neg hannounce] at hu ⊢
      obtain ⟨rfl, rfl, rfl⟩ := runs_enter hu
      exact ⟨rfl, rfl, rfl⟩

/-- The ways in which the processes of a command can be made, or fail to be made: what is said, and
the processes or the reason. -/
inductive Spawned (settings : Settings) (command : Command) :
    Trace → Except LaunchError (List Pid) → Prop where
  | alone (hrest : command.rest = []) (pid : Pid) :
      Spawned settings command (birthTrace settings command.first .alone none pid) (.ok [pid])
  | aloneFails (hrest : command.rest = []) (e : Errno) :
      Spawned settings command (stillbirthTrace settings command.first .alone none e)
        (.error (.fork e))
  | pipeFails {second : Stage} {more : List Stage} (hrest : command.rest = second :: more)
      (e : Errno) : Spawned settings command [⟨.makePipe, .error e⟩] (.error (.pipe e))
  | firstFails {second : Stage} {more : List Stage} (hrest : command.rest = second :: more)
      (pipe : Pipe) (e : Errno) :
      Spawned settings command
        (⟨.makePipe, .ok pipe⟩ ::
          stillbirthTrace settings command.first .pipeWriter (some pipe) e ++
          [⟨.closePipe pipe, ()⟩])
        (.error (.fork e))
  | secondFails {second : Stage} {more : List Stage} (hrest : command.rest = second :: more)
      (pipe : Pipe) (writer : Pid) (e : Errno) :
      Spawned settings command
        (⟨.makePipe, .ok pipe⟩ ::
          birthTrace settings command.first .pipeWriter (some pipe) writer ++
          stillbirthTrace settings second .pipeReader (some pipe) e ++ [⟨.closePipe pipe, ()⟩])
        (.error (.fork e))
  | pair {second : Stage} {more : List Stage} (hrest : command.rest = second :: more)
      (pipe : Pipe) (writer reader : Pid) :
      Spawned settings command
        (⟨.makePipe, .ok pipe⟩ ::
          birthTrace settings command.first .pipeWriter (some pipe) writer ++
          birthTrace settings second .pipeReader (some pipe) reader ++ [⟨.closePipe pipe, ()⟩])
        (.ok [writer, reader])

theorem runs_spawn_bind {α : Type} {stage : Stage} {role : Role} {pipe : Option Pipe}
    {f : Except Errno Pid → Shell α} {r : Except Failure α}
    (h : Runs (spawn settings stage role pipe >>= f) s t r s') :
    (∃ e u, t = stillbirthTrace settings stage role pipe e ++ u ∧ Runs (f (.error e)) s u r s') ∨
      ∃ pid u, t = birthTrace settings stage role pipe pid ++ u ∧
        Runs (f (.ok pid)) { s with table := s.table.insert pid (.single stage) } u r s' := by
  rcases runs_bind.1 h with ⟨answer, s₁, u, v, rfl, hu, hv⟩ | ⟨e, rfl, hu⟩
  · rcases runs_spawn hu with ⟨e, rfl, ⟨⟩, rfl⟩ | ⟨pid, rfl, ⟨⟩, rfl⟩
    · exact .inl ⟨e, v, rfl, hv⟩
    · exact .inr ⟨pid, v, rfl, hv⟩
  · rcases runs_spawn hu with ⟨_, _, h, _⟩ | ⟨_, _, h, _⟩ <;> cases h

theorem runs_spawnPair {first second : Stage} {pipe : Pipe}
    {r : Except Failure (Except Errno (List Pid))}
    (h : Runs (spawnPair settings first second pipe) s t r s') :
    (∃ e, t = stillbirthTrace settings first .pipeWriter (some pipe) e ++ [⟨.closePipe pipe, ()⟩] ∧
        r = .ok (.error e) ∧ s' = s) ∨
      (∃ writer e, t = birthTrace settings first .pipeWriter (some pipe) writer ++
          stillbirthTrace settings second .pipeReader (some pipe) e ++ [⟨.closePipe pipe, ()⟩] ∧
        r = .ok (.error e) ∧ s' = { s with table := s.table.insert writer (.single first) }) ∨
      ∃ writer reader, t = birthTrace settings first .pipeWriter (some pipe) writer ++
          birthTrace settings second .pipeReader (some pipe) reader ++ [⟨.closePipe pipe, ()⟩] ∧
        r = .ok (.ok [writer, reader]) ∧
        s' = { s with
          table := (s.table.insert writer (.single first)).insert reader (.single second) } := by
  rcases runs_spawn_bind h with ⟨e, u, rfl, hu⟩ | ⟨writer, u, rfl, hu⟩
  · obtain ⟨_, v, rfl, hv⟩ := runs_ask_bind.1 hu
    obtain ⟨rfl, rfl, rfl⟩ := runs_pure.1 hv
    exact .inl ⟨e, rfl, rfl, rfl⟩
  · rcases runs_spawn_bind hu with ⟨e, v, rfl, hv⟩ | ⟨reader, v, rfl, hv⟩
    · obtain ⟨_, w, rfl, hw⟩ := runs_ask_bind.1 hv
      obtain ⟨rfl, rfl, rfl⟩ := runs_pure.1 hw
      exact .inr (.inl ⟨writer, e, by rw [List.append_assoc], rfl, rfl⟩)
    · obtain ⟨_, w, rfl, hw⟩ := runs_ask_bind.1 hv
      obtain ⟨rfl, rfl, rfl⟩ := runs_pure.1 hw
      exact .inr (.inr ⟨writer, reader, by rw [List.append_assoc], rfl, rfl⟩)

/-- The processes of a command are made and entered into the table one after the other, as far as
they can be made. -/
theorem runs_spawnStages {command : Command} {r : Except Failure (List Pid)}
    (h : Runs (spawnStages settings command) s t r s') :
    ∃ outcome, Spawned settings command t outcome ∧
      r = outcome.mapError (fun e => .error (.launch e)) ∧
      s' = { s with table := s.table.enter t.births } := by
  rw [spawnStages] at h
  cases hrest : command.rest with
  | nil =>
    rw [hrest] at h
    rcases runs_spawn_bind h with ⟨e, u, rfl, hu⟩ | ⟨pid, u, rfl, hu⟩
    · obtain ⟨rfl, rfl, rfl⟩ := runs_fail.1 hu
      exact ⟨_, .aloneFails hrest e, rfl, rfl⟩
    · obtain ⟨rfl, rfl, rfl⟩ := runs_pure.1 hu
      rw [List.append_nil, births_birthTrace]
      exact ⟨_, .alone hrest pid, rfl, rfl⟩
  | cons second more =>
    rw [hrest] at h
    obtain ⟨answer, u, rfl, hu⟩ := runs_ask_bind.1 h
    rcases answer with e | pipe
    · obtain ⟨rfl, rfl, rfl⟩ := runs_fail.1 hu
      exact ⟨_, .pipeFails hrest e, rfl, rfl⟩
    · rcases runs_bind.1 hu with ⟨answer, s₁, v, w, rfl, hv, hw⟩ | ⟨e, rfl, hv⟩
      · rcases runs_spawnPair hv with ⟨e, rfl, ⟨⟩, rfl⟩ | ⟨writer, e, rfl, ⟨⟩, rfl⟩ |
          ⟨writer, reader, rfl, ⟨⟩, rfl⟩
        · obtain ⟨rfl, rfl, rfl⟩ := runs_fail.1 hw
          rw [List.append_nil]
          exact ⟨_, .firstFails hrest pipe e, rfl, rfl⟩
        · obtain ⟨rfl, rfl, rfl⟩ := runs_fail.1 hw
          rw [List.append_nil]
          refine ⟨_, .secondFails hrest pipe writer e, rfl, ?_⟩
          rw [← List.cons_append, ← List.cons_append, births_writer]
          rfl
        · obtain ⟨rfl, rfl, rfl⟩ := runs_pure.1 hw
          rw [List.append_nil]
          refine ⟨_, .pair hrest pipe writer reader, rfl, ?_⟩
          rw [← List.cons_append, ← List.cons_append, births_writer, births_birthTrace]
          rfl
      · rcases runs_spawnPair hv with ⟨_, _, h, _⟩ | ⟨_, _, _, h, _⟩ | ⟨_, _, _, h, _⟩ <;> cases h

/-! ## Waiting -/

/-- Whether a wait begins again after an answer. -/
def isUndecided : Except Errno WaitStatus → Bool
  | .ok outcome => outcome.status? = none || outcome.status? = some .running
  | .error e => e = .interrupted

/-- A process has been waited for, and found in a status. -/
def Waited (patience : Nat) (pid : Pid) (t : Trace) (status : Status) : Prop :=
  ∀ s, Runs (awaitChild pid patience) s t (.ok status) s

/-- A process has been waited for until there was no patience left. -/
structure Endless (patience : Nat) (pid : Pid) (t : Trace) : Prop where
  length : t.length = patience
  undecided : ∀ e ∈ t, ∃ answer, e = ⟨.wait pid .block, answer⟩ ∧ isUndecided answer

/-- Processes have been waited for one after the other, each once. -/
inductive Awaited (patience : Nat) : List (Pid × Status) → Trace → Prop where
  | nil : Awaited patience [] []
  | cons {pid : Pid} {status : Status} {found : List (Pid × Status)} {t u : Trace}
      (wait : Waited patience pid t status) (decided : status = .suspended ∨ status = .terminated)
      (rest : Awaited patience found u) :
      Awaited patience ((pid, status) :: found) (t ++ ⟨.log (.waited pid status), ()⟩ :: u)

section

variable {pid : Pid} {patience : Nat} {u : Trace} {r : Except Failure Status}

theorem runs_awaitChild_of_isUndecided {answer : Except Errno WaitStatus}
    (h : isUndecided answer) :
    Runs (awaitChild pid (patience + 1)) s (⟨.wait pid .block, answer⟩ :: u) r s' ↔
      Runs (awaitChild pid patience) s u r s' := by
  rw [awaitChild, runs_ask_cons]
  rcases answer with e | outcome
  · dsimp only
    rw [if_pos (of_decide_eq_true h)]
  · dsimp only
    rcases hstatus : outcome.status? with _ | _ | _ | _ <;> simp [isUndecided, hstatus] at h <;> rfl

theorem runs_awaitChild_of_status {outcome : WaitStatus} {status : Status}
    (h : outcome.status? = some status) (hover : status ≠ .running) :
    Runs (awaitChild pid (patience + 1)) s (⟨.wait pid .block, .ok outcome⟩ :: u) r s' ↔
      u = [] ∧ r = .ok status ∧ s' = s := by
  rw [awaitChild, runs_ask_cons]
  dsimp only
  rw [h]
  cases status with
  | running => exact absurd rfl hover
  | suspended | terminated => exact runs_pure

theorem runs_awaitChild_of_error {e : Errno} (h : e ≠ .interrupted) :
    Runs (awaitChild pid (patience + 1)) s (⟨.wait pid .block, .error e⟩ :: u) r s' ↔
      u = [⟨.log (.waitFailed pid e), ()⟩] ∧ r = .ok .terminated ∧ s' = s := by
  rw [awaitChild, runs_ask_cons]
  dsimp only
  rw [if_neg h, runs_log_bind]
  constructor
  · rintro ⟨v, rfl, hv⟩
    obtain ⟨rfl, hresult, hsession⟩ := runs_pure.1 hv
    exact ⟨rfl, hresult, hsession⟩
  · rintro ⟨rfl, hend⟩
    exact ⟨[], rfl, runs_pure.2 ⟨rfl, hend⟩⟩

/-- A wait comes to an end with a status, and this one is never that the process runs. -/
theorem runs_awaitChild (h : Runs (awaitChild pid patience) s u r s') :
    s' = s ∧ ((∃ status, r = .ok status ∧ (status = .suspended ∨ status = .terminated) ∧
        Waited patience pid u status) ∨
      (r = .error .stuck ∧ Endless patience pid u)) := by
  induction patience generalizing u with
  | zero =>
    obtain ⟨rfl, rfl, rfl⟩ := runs_throw.1 h
    exact ⟨rfl, .inr ⟨rfl, rfl, List.forall_mem_nil _⟩⟩
  | succ patience ih =>
    obtain ⟨answer, v, rfl, -⟩ := runs_ask_bind.1 h
    by_cases hanswer : isUndecided answer
    · obtain ⟨rfl, ⟨status, rfl, hover, hwaited⟩ | ⟨rfl, hendless⟩⟩ :=
        ih ((runs_awaitChild_of_isUndecided hanswer).1 h)
      · refine ⟨rfl, .inl ⟨status, rfl, hover, fun s => ?_⟩⟩
        exact (runs_awaitChild_of_isUndecided hanswer).2 (hwaited s)
      · refine ⟨rfl, .inr ⟨rfl, ?_, ?_⟩⟩
        · rw [List.length_cons, hendless.length]
        · exact List.forall_mem_cons.2 ⟨⟨answer, rfl, hanswer⟩, hendless.undecided⟩
    · rcases answer with e | outcome
      · have he : e ≠ .interrupted := fun he => hanswer (decide_eq_true he)
        obtain ⟨rfl, rfl, rfl⟩ := (runs_awaitChild_of_error he).1 h
        refine ⟨rfl, .inl ⟨_, rfl, .inr rfl, fun s => ?_⟩⟩
        exact (runs_awaitChild_of_error he).2 ⟨rfl, rfl, rfl⟩
      · rcases hstatus : outcome.status? with _ | _ | _ | _
        · exact absurd (by simp [isUndecided, hstatus]) hanswer
        · exact absurd (by simp [isUndecided, hstatus]) hanswer
        · obtain ⟨rfl, rfl, rfl⟩ := (runs_awaitChild_of_status hstatus nofun).1 h
          refine ⟨rfl, .inl ⟨_, rfl, .inl rfl, fun s => ?_⟩⟩
          exact (runs_awaitChild_of_status hstatus nofun).2 ⟨rfl, rfl, rfl⟩
        · obtain ⟨rfl, rfl, rfl⟩ := (runs_awaitChild_of_status hstatus nofun).1 h
          refine ⟨rfl, .inl ⟨_, rfl, .inr rfl, fun s => ?_⟩⟩
          exact (runs_awaitChild_of_status hstatus nofun).2 ⟨rfl, rfl, rfl⟩

end

/-- All processes are waited for in turn, as far as the waits come to an end. -/
theorem runs_awaitAll {pids : List Pid} {r : Except Failure Unit}
    (h : Runs (awaitAll settings pids) s t r s') :
    (∃ found, found.map (·.1) = pids ∧ Awaited settings.patience found t ∧ r = .ok () ∧
        s' = { s with table := s.table.observeAll found }) ∨
      ∃ found pid later u v, pids = found.map (·.1) ++ pid :: later ∧ t = u ++ v ∧
        Awaited settings.patience found u ∧ Endless settings.patience pid v ∧
        r = .error .stuck ∧ s' = { s with table := s.table.observeAll found } := by
  induction pids generalizing s t with
  | nil =>
    obtain ⟨rfl, rfl, rfl⟩ := runs_pure.1 h
    exact .inl ⟨[], rfl, .nil, rfl, rfl⟩
  | cons pid rest ih =>
    rw [awaitAll] at h
    rcases runs_bind.1 h with ⟨status, s₁, u, v, rfl, hu, hv⟩ | ⟨e, rfl, hu⟩
    · obtain ⟨rfl, ⟨_, ⟨⟩, hover, hwaited⟩ | ⟨⟨⟩, -⟩⟩ := runs_awaitChild hu
      obtain ⟨w, rfl, hw⟩ := runs_log_bind.1 hv
      rw [runs_modifyTable_bind] at hw
      rcases ih hw with ⟨found, rfl, hawaited, rfl, rfl⟩ |
        ⟨found, pid', later, x, y, rfl, rfl, hawaited, hendless, rfl, rfl⟩
      · exact .inl ⟨(pid, status) :: found, rfl, .cons hwaited hover hawaited, rfl, rfl⟩
      · refine .inr ⟨(pid, status) :: found, pid', later, _, y, rfl, ?_,
          .cons hwaited hover hawaited, hendless, rfl, rfl⟩
        rw [List.append_assoc, List.cons_append]
    · obtain ⟨rfl, ⟨_, h, -⟩ | ⟨⟨⟩, hendless⟩⟩ := runs_awaitChild hu
      · cases h
      · exact .inr ⟨[], pid, rest, [], t, rfl, rfl, .nil, hendless, rfl, rfl⟩

/-! ## The whole launch -/

/-- The records of the stages of a command, the newest first. -/
def stageRecords (command : Command) (pids : List Pid) (statuses : List Status) : List Record :=
  ((pids.zip ((command.stages.map .single).zip statuses)).map fun f =>
    ⟨f.1, f.2.1, f.2.2, none⟩).reverse

/-- The ways in which the launch of a command can go that has passed its check: what is said, the
result, and the table at the end. `T` is the table at the beginning. -/
inductive LaunchOutcome (settings : Settings) (command : Command) (T : Table) :
    Trace → Except Failure (List Pid) → Table → Prop where
  /-- The pipe cannot be made. -/
  | pipeFails (hstages : command.stages.length = 2) (e : Errno) :
      LaunchOutcome settings command T [⟨.makePipe, .error e⟩]
        (.error (.error (.launch (.pipe e)))) T
  /-- The first process cannot be made. -/
  | firstForkFails {u : Trace} {e : Errno}
      (spawned : Spawned settings command u (.error (.fork e))) (hbirths : u.births = []) :
      LaunchOutcome settings command T u (.error (.error (.launch (.fork e)))) T
  /-- The second process cannot be made. The first one runs, and has its record. -/
  | secondForkFails {u : Trace} {writer : Pid} {e : Errno}
      (spawned : Spawned settings command u (.error (.fork e)))
      (hbirths : u.births = [(writer, .single command.first)]) :
      LaunchOutcome settings command T u (.error (.error (.launch (.fork e))))
        ⟨.launched writer (.single command.first) :: T.records⟩
  /-- All processes have been made, and no stage is to be waited for. -/
  | background {u : Trace} {pids : List Pid} (spawned : Spawned settings command u (.ok pids))
      (hpids : pids.length = command.stages.length) (hblocking : command.isBlocking = false) :
      LaunchOutcome settings command T u (.ok pids)
        ⟨stageRecords command pids (pids.map fun _ => .running) ++ T.records⟩
  /-- All processes have been made, and then each has been waited for once, in the same order. -/
  | foreground {u w : Trace} {pids : List Pid} {statuses : List Status}
      (spawned : Spawned settings command u (.ok pids))
      (hpids : pids.length = command.stages.length) (hblocking : command.isBlocking = true)
      (hstatuses : statuses.length = pids.length)
      (awaited : Awaited settings.patience (pids.zip statuses) w) :
      LaunchOutcome settings command T (u ++ w) (.ok pids)
        ⟨stageRecords command pids statuses ++ T.records⟩
  /-- All processes have been made, but one of the waits does not come to an end. -/
  | endless {u v w : Trace} {pids later : List Pid} {found : List (Pid × Status)}
      {pid : Pid} (spawned : Spawned settings command u (.ok pids))
      (hblocking : command.isBlocking = true) (hpids : pids = found.map (·.1) ++ pid :: later)
      (awaited : Awaited settings.patience found v) (unended : Endless settings.patience pid w) :
      LaunchOutcome settings command T (u ++ (v ++ w)) (.error .stuck)
        ((T.enter u.births).observeAll found)

/-- A command that passes its check has one or two stages. -/
theorem rest_of_check {command : Command} (h : command.check = .ok ()) :
    command.rest = [] ∨ ∃ second, command.rest = [second] := by
  have hredirects : command.checkRedirects = .ok () := by
    rw [Command.check] at h
    rcases hresult : command.checkRedirects with e | _
    · rw [hresult] at h
      cases h
    · rfl
  rw [Command.checkRedirects] at hredirects
  rcases hrest : command.rest with _ | ⟨second, _ | ⟨third, more⟩⟩
  · exact .inl rfl
  · exact .inr ⟨second, rfl⟩
  · rw [hrest] at hredirects
    dsimp only at hredirects
    split_ifs at hredirects with _ _ hmore
    exact absurd rfl hmore

/-- Each stage of a command that has passed its check gets a process. -/
theorem Spawned.births_eq {command : Command} {pids : List Pid}
    (h : Spawned settings command t (.ok pids)) (hcheck : command.check = .ok ()) :
    t.births = pids.zip (command.stages.map .single) ∧ pids.length = command.stages.length := by
  cases h with
  | alone hrest pid =>
    rw [births_birthTrace, Command.stages, hrest]
    exact ⟨rfl, rfl⟩
  | pair hrest pipe writer reader =>
    rcases rest_of_check hcheck with hnone | ⟨second, hone⟩
    · rw [hnone] at hrest
      cases hrest
    · rw [hone] at hrest
      cases hrest
      rw [births_writer, births_birthTrace, Command.stages, hone]
      exact ⟨rfl, rfl⟩

theorem enter_stages (command : Command) (pids : List Pid) (T : Table) :
    T.enter (pids.zip (command.stages.map .single)) =
      ⟨stageRecords command pids (pids.map fun _ => .running) ++ T.records⟩ := by
  have hrunning : ∀ commands : List Command,
      (pids.zip commands).map (fun birth => Record.launched birth.1 birth.2) =
        (pids.zip (commands.zip (pids.map fun _ => Status.running))).map fun f =>
          ⟨f.1, f.2.1, f.2.2, none⟩ := by
    induction pids with
    | nil => exact fun _ => rfl
    | cons pid rest ih =>
      rintro (_ | ⟨command, commands⟩)
      · rfl
      · exact congrArg (Record.launched pid command :: ·) (ih commands)
  rw [stageRecords, ← hrunning]
  exact congrArg Table.mk (T.records_enter _)

/-- What waiting for the processes of a command writes into their records. -/
theorem observeAll_stages {command : Command} {pids : List Pid} {found : List (Pid × Status)}
    (T : Table) (hpids : pids.length = command.stages.length) (hfound : found.map (·.1) = pids)
    (hdistinct : pids.Nodup) :
    (T.enter (pids.zip (command.stages.map .single))).observeAll found =
      ⟨stageRecords command pids (found.map (·.2)) ++ T.records⟩ := by
  have hlength : found.length = pids.length := by rw [← hfound, List.length_map]
  set all := pids.zip ((command.stages.map Command.single).zip (found.map (·.2))) with hall
  have hnumbers : all.map (·.1) = pids := List.map_fst_zip (by simp [hlength, hpids])
  have hbirths : all.map (fun f => (f.1, f.2.1)) = pids.zip (command.stages.map .single) := by
    show all.map (Prod.map id Prod.fst) = _
    rw [hall, ← List.zip_map_right, List.map_fst_zip (by simp [hlength, hpids])]
  have hobserved : all.map (fun f => (f.1, f.2.2)) = found := by
    show all.map (Prod.map id Prod.snd) = _
    rw [hall, ← List.zip_map_right, List.map_snd_zip (by simp [hlength, hpids]), ← hfound]
    exact (List.zip_of_prod rfl rfl).symm
  calc (T.enter (pids.zip (command.stages.map .single))).observeAll found
      = (T.enter (all.map fun f => (f.1, f.2.1))).observeAll (all.map fun f => (f.1, f.2.2)) := by
        rw [hbirths, hobserved]
    _ = _ := T.observeAll_enter all (hnumbers ▸ hdistinct)

/-- A pipe or a process that cannot be made is fatal. -/
theorem LaunchOutcome.of_error {command : Command} {e : LaunchError} (T : Table)
    (hcheck : command.check = .ok ()) (h : Spawned settings command t (.error e)) :
    LaunchOutcome settings command T t (.error (.error (.launch e))) (T.enter t.births) ∧
      e.isFatal := by
  cases hspawned : h with
  | aloneFails hrest e => exact ⟨.firstForkFails h rfl, rfl⟩
  | pipeFails hrest e =>
    refine ⟨.pipeFails ?_ e, rfl⟩
    rcases rest_of_check hcheck with hnone | ⟨second, hone⟩
    · rw [hnone] at hrest
      cases hrest
    · rw [Command.stages, hone]
      rfl
  | firstFails hrest pipe e => exact ⟨.firstForkFails h rfl, rfl⟩
  | secondFails hrest pipe writer e =>
    refine ⟨?_, rfl⟩
    rw [births_writer]
    exact .secondForkFails h (births_writer ..)

/-! ### An example

Two programs are launched, of which the second is to be waited for. Their numbers stand in the table
already, in records of programs that are long dead. -/

namespace Piped

def silent : Settings := ⟨false, .children, 2⟩

def first : Stage := ⟨["a"], none, none, false⟩

def second : Stage := ⟨["b"], none, none, true⟩

def stale : List Record :=
  [⟨⟨8⟩, .ofArguments ["c"], .terminated, some .running⟩, ⟨⟨7⟩, .ofArguments ["d"], .running, none⟩]

def session : Session := ⟨⟨stale⟩, ⟨20, []⟩⟩

def afterLaunch : Session :=
  ⟨⟨⟨⟨8⟩, .single second, .suspended, none⟩ :: ⟨⟨7⟩, .single first, .terminated, none⟩ :: stale⟩,
    ⟨20, []⟩⟩

/-- The first wait is interrupted, the second program is stopped. -/
def trace : Trace :=
  [⟨.makePipe, .ok ⟨3, 4⟩⟩, ⟨.fork ⟨first, .pipeWriter, some ⟨3, 4⟩, false⟩, .ok ⟨7⟩⟩,
    ⟨.log (.spawned ⟨7⟩ (.single first) .pipeWriter), ()⟩,
    ⟨.log (.tracking ⟨7⟩ (.single first)), ()⟩,
    ⟨.fork ⟨second, .pipeReader, some ⟨3, 4⟩, false⟩, .ok ⟨8⟩⟩,
    ⟨.log (.spawned ⟨8⟩ (.single second) .pipeReader), ()⟩,
    ⟨.log (.tracking ⟨8⟩ (.single second)), ()⟩, ⟨.closePipe ⟨3, 4⟩, ()⟩,
    ⟨.wait ⟨7⟩ .block, .error .interrupted⟩, ⟨.wait ⟨7⟩ .block, .ok (.exited 0)⟩,
    ⟨.log (.waited ⟨7⟩ .terminated), ()⟩, ⟨.wait ⟨8⟩ .block, .ok (.stopped .tstp)⟩,
    ⟨.log (.waited ⟨8⟩ .suspended), ()⟩]

theorem check : Command.check ⟨first, [second]⟩ = .ok () := by decide

theorem runs :
    Runs (launch silent ⟨first, [second]⟩) session trace (.ok [⟨7⟩, ⟨8⟩]) afterLaunch := by
  rw [launch, check]
  exact .call _ (.call _ (.call _ (.call _ (.call _ (.call _ (.call _ (.call _ (.call _ (.call _
    (.call _ (.call _ (.call _ (.done _)))))))))))))

end Piped

/-- Launching a command that has passed its check goes one of the ways that `LaunchOutcome` lists,
whatever the table holds, if the processes made have different numbers. The history is left alone,
and an error is fatal. -/
theorem launch_outcome {command : Command} {r : Except Failure (List Pid)}
    (hcheck : command.check = .ok ()) (hruns : Runs (launch settings command) s t r s')
    (hdistinct : (t.births.map (·.1)).Nodup) :
    LaunchOutcome settings command s.table t r s'.table ∧ s'.history = s.history ∧
      ∀ e, r = .error (.error e) → e.isFatal := by
  rw [launch, hcheck] at hruns
  rcases runs_bind.1 hruns with ⟨pids, s₁, u, v, rfl, hu, hv⟩ | ⟨e, rfl, hu⟩
  · obtain ⟨outcome, hspawned, houtcome, rfl⟩ := runs_spawnStages hu
    rcases outcome with e | _ <;> cases houtcome
    obtain ⟨hbirths, hpids⟩ := hspawned.births_eq hcheck
    have hnodup : pids.Nodup := by
      rw [Trace.births_append, List.map_append, hbirths, List.map_fst_zip (by simp [hpids])]
        at hdistinct
      exact hdistinct.of_append_left
    by_cases hblocking : command.isBlocking = true
    · rw [if_pos hblocking] at hv
      rcases runs_bind.1 hv with ⟨_, s₂, w, x, rfl, hw, hx⟩ | ⟨e, rfl, hw⟩
      · obtain ⟨rfl, rfl, rfl⟩ := runs_pure.1 hx
        obtain ⟨found, hfound, hawaited, -, rfl⟩ | ⟨_, _, _, _, _, _, _, _, _, h, _⟩ :=
          runs_awaitAll hw
        · have hstatuses : (found.map (·.2)).length = pids.length := by
            rw [← hfound, List.length_map, List.length_map]
          have hzip : pids.zip (found.map (·.2)) = found := (List.zip_of_prod hfound rfl).symm
          rw [List.append_nil, hbirths, observeAll_stages s.table hpids hfound hnodup]
          refine ⟨.foreground hspawned hpids hblocking hstatuses ?_, rfl, nofun⟩
          rw [hzip]
          exact hawaited
        · cases h
      · obtain ⟨_, _, _, h, _⟩ | ⟨found, pid, later, x, y, hall, rfl, hawaited, hendless, h, rfl⟩ :=
          runs_awaitAll hw
        · cases h
        · cases h
          exact ⟨.endless hspawned hblocking hall hawaited hendless, rfl, nofun⟩
    · rw [if_neg hblocking] at hv
      obtain ⟨rfl, rfl, rfl⟩ := runs_pure.1 hv
      rw [List.append_nil, hbirths, enter_stages]
      exact ⟨.background hspawned hpids (Bool.eq_false_iff.2 hblocking), rfl, nofun⟩
  · obtain ⟨outcome, hspawned, houtcome, rfl⟩ := runs_spawnStages hu
    rcases outcome with e | _ <;> cases houtcome
    obtain ⟨houtcome, hfatal⟩ := LaunchOutcome.of_error s.table hcheck hspawned
    refine ⟨houtcome, rfl, ?_⟩
    rintro _ ⟨⟩
    exact hfatal

theorem launch_outcome_piped :
    Command.check ⟨Piped.first, [Piped.second]⟩ = .ok () ∧
      Runs (launch Piped.silent ⟨Piped.first, [Piped.second]⟩) Piped.session Piped.trace
        (.ok [⟨7⟩, ⟨8⟩]) Piped.afterLaunch ∧
      (Piped.trace.births.map (·.1)).Nodup ∧
      LaunchOutcome Piped.silent ⟨Piped.first, [Piped.second]⟩ ⟨Piped.stale⟩ Piped.trace
        (.ok [⟨7⟩, ⟨8⟩]) Piped.afterLaunch.table := by
  have hdistinct : (Piped.trace.births.map (·.1)).Nodup := by decide
  obtain ⟨houtcome, -, -⟩ := launch_outcome Piped.check Piped.runs hdistinct
  exact ⟨Piped.check, Piped.runs, hdistinct, houtcome⟩

end Shell

end JobShell
