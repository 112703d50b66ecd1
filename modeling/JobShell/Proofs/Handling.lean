import JobShell.Proofs.Checking
import JobShell.Proofs.References

/-!
# What becomes of a line

A line that is not blank and can be resolved is recorded, and what comes after that is one of the
ways that `Handled` lists: it depends on nothing but the recorded text which of them it is. All that
is true of every line is read off this list. The lemmas above it say which calls a built-in command
makes and how it fails, those below it which processes a launch makes.
-/

namespace JobShell

/-! ## Built-in commands -/

/-- The kinds of calls that built-in commands make. -/
def Call.isOfBuiltin : Call → Bool
  | makePipe | fork _ | closePipe _ | flush | currentDirectory | complain _ => false
  | _ => true

/-- The errors that built-in commands report. -/
def ShellError.isOfBuiltin : ShellError → Bool
  | launch _ | parse _ | noHistory | invalidHistoryReference => false
  | _ => true

/-- The ways in which a built-in command that was given `arguments` can fail. -/
def Failure.IsOfBuiltin (builtin : Builtin) (arguments : List String) : Failure → Prop
  | error cause => cause.isOfBuiltin
  | crash => arguments = []
  | stuck => builtin = .procs

namespace Shell

variable {settings : Settings} {s s' : Session} {t : Trace} {arguments : List String}

/-- Nothing happens to the session, and only such calls are made as built-in commands make. -/
def idle : Effect where
  Allows s t s' := s' = s ∧ ∀ e ∈ t, e.call.isOfBuiltin
  refl _ := ⟨rfl, List.forall_mem_nil _⟩
  trans := by
    rintro s₁ s₂ s₃ t u ⟨rfl, ht⟩ ⟨rfl, hu⟩
    exact ⟨rfl, List.forall_mem_append.2 ⟨ht, hu⟩⟩

/-- Nothing happens to the history, and only such calls are made as built-in commands make. -/
def chores : Effect where
  Allows s t s' := s'.history = s.history ∧ ∀ e ∈ t, e.call.isOfBuiltin
  refl _ := ⟨rfl, List.forall_mem_nil _⟩
  trans := by
    rintro s₁ s₂ s₃ t u ⟨hhistory, ht⟩ ⟨hhistory', hu⟩
    exact ⟨hhistory'.trans hhistory, List.forall_mem_append.2 ⟨ht, hu⟩⟩

section

variable {α : Type} {F : Failure → Prop} {builtin : Builtin}

theorem idle_ask {c : Call} (h : c.isOfBuiltin) : Confined idle F (ask c) :=
  .ask fun _ _ => ⟨rfl, List.forall_mem_singleton.2 h⟩

theorem chores_of_idle {x : Shell α} (h : Confined idle F x) : Confined chores F x :=
  h.mono (fun h => ⟨congrArg Session.history h.1, h.2⟩) fun _ => id

theorem chores_modifyTable (f : Table → Table) : Confined chores F (modifyTable f) :=
  .modifyTable fun _ => ⟨rfl, List.forall_mem_nil _⟩

/-- An argument is missing only where there is none behind the name of the command. -/
theorem confined_argument {E : Effect} (arguments : List String) :
    Confined E (Failure.IsOfBuiltin builtin arguments) (argument arguments) := by
  unfold argument
  split
  · exact .pure _
  · exact .fail rfl
  · exact .throw rfl

theorem idle_writeAll (pieces : List String) :
    Confined idle (Failure.IsOfBuiltin builtin arguments) (writeAll pieces) := by
  refine .forM (fun piece => .bind (idle_ask rfl) fun answer => ?_) pieces
  rcases answer with e | _
  · exact .fail rfl
  · exact .pure _

theorem idle_listHistory : Confined idle (Failure.IsOfBuiltin builtin arguments) listHistory :=
  .bind .get fun _ => idle_writeAll _

theorem idle_changeDirectory (arguments : List String) :
    Confined idle (Failure.IsOfBuiltin builtin arguments) (changeDirectory arguments) := by
  refine .bind (confined_argument arguments) fun path => ?_
  split
  · exact .fail rfl
  · refine .bind (idle_ask rfl) fun answer => ?_
    rcases answer with e | _
    · exact .fail rfl
    · exact .pure _

/-- An inquiry leaves everything as it is. -/
theorem chores_inquiry (c : Call) (h : c.isInquiry) (s : Session) (answer : c.Answer) :
    chores.Allows s [⟨c, answer⟩] s := by
  refine ⟨rfl, List.forall_mem_singleton.2 ?_⟩
  cases c <;> first | rfl | cases h

theorem chores_listProcesses :
    Confined chores (Failure.IsOfBuiltin .procs arguments) (listProcesses settings) := by
  have hstuck : Failure.IsOfBuiltin .procs arguments .stuck := rfl
  refine .bind (.bind .get fun s => ?_) fun _ => chores_of_idle (idle_writeAll _)
  refine .bind (.bind (confined_refresh chores_inquiry hstuck settings _) fun _ => .pure _) ?_
  rintro ⟨entries, table⟩
  refine .bind (confined_logDead chores_inquiry entries) fun _ => ?_
  exact .bind (chores_modifyTable _) fun _ => .pure _

theorem chores_dispatch (pid : Pid) (control : Control) :
    Confined chores (Failure.IsOfBuiltin builtin arguments) (dispatch pid control) := by
  refine .bind .get fun s => .bind (chores_modifyTable _) fun _ => ?_
  refine .bind (chores_of_idle (idle_ask rfl)) fun _ => ?_
  refine .bind (chores_of_idle (idle_ask rfl)) fun answer => ?_
  rcases answer with e | _
  · exact .bind (chores_of_idle (idle_ask rfl)) fun _ => .fail rfl
  · exact .pure _

theorem chores_actOnProcess (control : Control) (arguments : List String) :
    Confined chores (Failure.IsOfBuiltin builtin arguments) (actOnProcess control arguments) := by
  refine .bind (confined_argument arguments) fun arg => ?_
  split
  · exact chores_dispatch _ control
  · exact .fail rfl

end

/-- Whatever a built-in command does, it leaves the history alone, unless it ends the shell. -/
theorem chores_runBuiltin {builtin : Builtin} (h : builtin ≠ .quit) (arguments : List String) :
    Confined chores (Failure.IsOfBuiltin builtin arguments)
      (runBuiltin settings builtin arguments) := by
  unfold runBuiltin
  cases builtin with
  | cd => exact .bind (chores_of_idle (idle_changeDirectory arguments)) fun _ => .pure _
  | procs => exact .bind chores_listProcesses fun _ => .pure _
  | hist => exact .bind (chores_of_idle idle_listHistory) fun _ => .pure _
  | control control => exact .bind (chores_actOnProcess control arguments) fun _ => .pure _
  | quit => exact absurd rfl h

theorem runs_quit {r : Except Failure Flow} :
    Runs (runBuiltin settings .quit arguments) s t r s' ↔
      t = [] ∧ r = .ok .quit ∧ s' = s.shutdown := by
  show Runs (modify Session.shutdown >>= fun _ => pure Flow.quit) s t r s' ↔ _
  rw [runs_modify_bind, runs_pure]

end Shell

/-! ## Launching -/

/-- The calls by which a command is launched. -/
def Call.isLaunch : Call → Bool
  | makePipe | fork _ => true
  | _ => false

theorem Call.isLaunch_of_isOfBuiltin {c : Call} (h : c.isOfBuiltin) : c.isLaunch = false := by
  cases c <;> first | rfl | cases h

/-- What the system refused to make. -/
def Exchange.refusal? : Exchange → Option LaunchError
  | ⟨.makePipe, .error e⟩ => some (.pipe e)
  | ⟨.fork _, .error e⟩ => some (.fork e)
  | _ => none

namespace Trace

/-- All that the system refused to make. -/
def refusals (t : Trace) : List LaunchError := t.filterMap Exchange.refusal?

@[simp] theorem refusals_append (t u : Trace) : refusals (t ++ u) = refusals t ++ refusals u :=
  List.filterMap_append

/-- Where nothing is launched, nothing is made and nothing refused. -/
theorem births_refusals_of_forall {t : Trace} (h : ∀ e ∈ t, e.call.isLaunch = false) :
    t.births = [] ∧ t.refusals = [] := by
  refine ⟨List.filterMap_eq_nil_iff.2 ?_, List.filterMap_eq_nil_iff.2 ?_⟩
  all_goals
    rintro ⟨c, answer⟩ he
    have hcall := h _ he
    cases c <;> first | rfl | cases hcall

end Trace

namespace Table

/-- A process that is among the first records is found there, and the others stay as they are. -/
theorem observe_append {front : List Record} (back : List Record) {pid : Pid}
    (hpid : pid ∈ front.map (·.pid)) (status : Status) :
    observe ⟨front ++ back⟩ pid status = ⟨(observe ⟨front⟩ pid status).records ++ back⟩ := by
  refine congrArg mk ?_
  induction front with
  | nil => cases hpid
  | cons r rest ih =>
    rw [List.cons_append, updateFirst]
    by_cases heq : r.pid = pid
    · rw [if_pos heq, observe, updateFirst, if_pos heq, List.cons_append]
    · have hrest := (List.mem_cons.1 hpid).resolve_left (Ne.symm heq)
      rw [if_neg heq, observe, updateFirst, if_neg heq, List.cons_append, ih hrest, observe]

theorem pids_observe (t : Table) (pid : Pid) (status : Status) :
    (t.observe pid status).pids = t.pids := by
  have hsubjects := congrArg (List.map Prod.fst) (t.subjects_observe pid status)
  rwa [subjects, subjects, List.map_map, List.map_map] at hsubjects

/-- Waiting for processes that are among the first records does not change what these are about,
and nothing else. -/
theorem observeAll_append {front : List Record} (back : List Record) {found : List (Pid × Status)}
    (hfound : ∀ pid ∈ found.map (·.1), pid ∈ front.map (·.pid)) :
    ∃ front', observeAll ⟨front ++ back⟩ found = ⟨front' ++ back⟩ ∧
      front'.map Record.subject = front.map Record.subject := by
  induction found generalizing front with
  | nil => exact ⟨front, rfl, rfl⟩
  | cons f rest ih =>
    obtain ⟨hfirst, hrest⟩ := List.forall_mem_cons.1 hfound
    rw [← show pids (observe ⟨front⟩ f.1 f.2) = front.map (·.pid) from
      pids_observe ⟨front⟩ f.1 f.2] at hrest
    obtain ⟨front', hobserved, hsubjects⟩ := ih hrest
    refine ⟨front', ?_, hsubjects.trans (subjects_observe ⟨front⟩ f.1 f.2)⟩
    exact (congrArg (observeAll · rest) (observe_append back hfirst f.2)).trans hobserved

end Table

namespace Shell

variable {settings : Settings} {command : Command} {s s' : Session} {t : Trace}

theorem refusals_birthTrace (settings : Settings) (stage : Stage) (role : Role)
    (pipe : Option Pipe) (pid : Pid) : (birthTrace settings stage role pipe pid).refusals = [] := by
  rw [birthTrace]
  split <;> rfl

/-- The errors of a launch say what the system refused. -/
theorem Spawned.refusals_eq {outcome : Except LaunchError (List Pid)}
    (h : Spawned settings command t outcome) :
    (∀ pids, outcome = .ok pids → t.refusals = []) ∧
      ∀ e, outcome = .error e → t.refusals = [e] ∧ e.isFatal := by
  have hbirth := refusals_birthTrace settings
  cases h with
  | alone hrest pid => exact ⟨fun _ _ => hbirth .., nofun⟩
  | aloneFails hrest e => exact ⟨nofun, by rintro _ ⟨⟩; exact ⟨rfl, rfl⟩⟩
  | pipeFails hrest e => exact ⟨nofun, by rintro _ ⟨⟩; exact ⟨rfl, rfl⟩⟩
  | firstFails hrest pipe e => exact ⟨nofun, by rintro _ ⟨⟩; exact ⟨rfl, rfl⟩⟩
  | secondFails hrest pipe writer e =>
    refine ⟨nofun, ?_⟩
    rintro _ ⟨⟩
    refine ⟨?_, rfl⟩
    rw [Trace.refusals_append, Trace.refusals_append, ← List.singleton_append,
      Trace.refusals_append, hbirth]
    rfl
  | pair hrest pipe writer reader =>
    refine ⟨fun _ _ => ?_, nofun⟩
    rw [Trace.refusals_append, Trace.refusals_append, ← List.singleton_append,
      Trace.refusals_append, hbirth, hbirth]
    rfl

theorem Spawned.exists_isLaunch {outcome : Except LaunchError (List Pid)}
    (h : Spawned settings command t outcome) : ∃ e ∈ t, e.call.isLaunch := by
  cases h with
  | alone | aloneFails | pipeFails | firstFails | secondFails | pair =>
    exact ⟨_, List.mem_cons_self, rfl⟩

/-- The stages that get a process are the first ones of the command. -/
theorem Spawned.births_isPrefix {outcome : Except LaunchError (List Pid)}
    (h : Spawned settings command t outcome) :
    t.births.map (·.2) <+: command.stages.map .single := by
  rw [Command.stages, List.map_cons]
  cases h with
  | alone hrest pid =>
    rw [births_birthTrace]
    exact List.prefix_append [_] _
  | aloneFails | pipeFails | firstFails => exact List.nil_prefix
  | secondFails hrest pipe writer e =>
    rw [births_writer]
    exact List.prefix_append [_] _
  | pair hrest pipe writer reader =>
    rw [births_writer, births_birthTrace, hrest]
    exact List.prefix_append [_, _] _

/-- What is true of every launch of a command that has passed its check, however it ends. -/
structure Launched {α : Type} (command : Command) (s : Session) (t : Trace) (r : Except Failure α)
    (s' : Session) : Prop where
  attempted : ∃ e ∈ t, e.call.isLaunch
  /-- The stages get processes in order, and each does if the system refuses nothing. -/
  births : t.births.map (·.2) <+: command.stages.map .single
  complete : t.refusals = [] → t.births.map (·.2) = command.stages.map .single
  /-- Each process has a record, and these stand in front of the others. -/
  records : ∃ new, s'.table.records = new ++ s.table.records ∧
    new.map Record.subject = t.births.reverse
  history : s'.history = s.history
  /-- The launch fails exactly with what the system refuses. -/
  refused : ∀ e, e ∈ t.refusals ↔ r = .error (.error (.launch e))
  fatal : ∀ e, r = .error (.error e) → e.isFatal ∧ ∃ cause, e = .launch cause
  sturdy : r ≠ .error .crash

/-- What is said before and after a launch does not matter. -/
theorem Launched.surround {α β : Type} {r : Except Failure α} {r' : Except Failure β}
    (h : Launched command s t r s') (hresult : ∀ e, r' = .error e ↔ r = .error e)
    (before after : Trace) (hquiet : ∀ e ∈ before ++ after, e.call.isLaunch = false) :
    Launched command s (before ++ t ++ after) r' s' := by
  obtain ⟨hbefore, hafter⟩ := List.forall_mem_append.1 hquiet
  obtain ⟨hbirths, hrefusals⟩ := Trace.births_refusals_of_forall hbefore
  obtain ⟨hbirths', hrefusals'⟩ := Trace.births_refusals_of_forall hafter
  have hallBirths : (before ++ t ++ after).births = t.births := by
    rw [Trace.births_append, Trace.births_append, hbirths, hbirths', List.nil_append,
      List.append_nil]
  have hallRefusals : (before ++ t ++ after).refusals = t.refusals := by
    rw [Trace.refusals_append, Trace.refusals_append, hrefusals, hrefusals', List.nil_append,
      List.append_nil]
  obtain ⟨e, he, hlaunch⟩ := h.attempted
  refine ⟨⟨e, ?_, hlaunch⟩, ?_, ?_, ?_, h.history, ?_, ?_, ?_⟩
  · exact List.mem_append_left _ (List.mem_append_right _ he)
  · exact hallBirths ▸ h.births
  · exact hallBirths ▸ hallRefusals ▸ h.complete
  · exact hallBirths ▸ h.records
  · intro e
    rw [hallRefusals, h.refused, hresult]
  · exact fun e he => h.fatal e ((hresult _).1 he)
  · exact fun he => h.sturdy ((hresult _).1 he)

/-- Waiting makes no process and leaves the history alone. -/
theorem runs_awaitAll_quietly {pids : List Pid} {r : Except Failure Unit}
    (h : Runs (awaitAll settings pids) s t r s') :
    s'.history = s.history ∧ ∀ e ∈ t, e.call.isOfBuiltin := by
  have hchores := confined_awaitAll (F := fun _ => True) chores_inquiry trivial settings
    (fun _ _ _ => ⟨rfl, List.forall_mem_nil _⟩) pids
  exact hchores.within h

/-- Waiting changes what is known about the new processes only. -/
theorem runs_awaitAll_enter {births : List (Pid × Command)} {pids : List Pid}
    {r : Except Failure Unit} (hpids : ∀ pid ∈ pids, pid ∈ births.map (·.1))
    (h : Runs (awaitAll settings pids) { s with table := s.table.enter births } t r s') :
    t.births = [] ∧ t.refusals = [] ∧ s'.history = s.history ∧
      (∃ new, s'.table.records = new ++ s.table.records ∧
        new.map Record.subject = births.reverse) ∧
      (r = .ok () ∨ r = .error .stuck) := by
  obtain ⟨hhistory, hcalls⟩ := runs_awaitAll_quietly h
  obtain ⟨hbirths, hrefusals⟩ := Trace.births_refusals_of_forall fun e he =>
    Call.isLaunch_of_isOfBuiltin (hcalls e he)
  obtain ⟨found, hfound, hend, rfl⟩ : ∃ found : List (Pid × Status),
      (∀ pid ∈ found.map (·.1), pid ∈ pids) ∧ (r = .ok () ∨ r = .error .stuck) ∧
        s' = { s with table := (s.table.enter births).observeAll found } := by
    rcases runs_awaitAll h with ⟨found, hfound, -, hend, hsession⟩ |
      ⟨found, pid, later, _, _, hall, -, -, -, hend, hsession⟩
    · exact ⟨found, fun pid hpid => hfound ▸ hpid, .inl hend, hsession⟩
    · refine ⟨found, fun pid hpid => ?_, .inr hend, hsession⟩
      rw [hall]
      exact List.mem_append_left _ hpid
  refine ⟨hbirths, hrefusals, rfl, ?_, hend⟩
  set front := (births.map fun birth => Record.launched birth.1 birth.2).reverse with hfront
  -- The new records stand in front, so what a wait finds goes to them and to no older record.
  have hnumbers : ∀ pid ∈ found.map (·.1), pid ∈ front.map (·.pid) := by
    intro pid hpid
    have hborn := hpids pid (hfound pid hpid)
    rw [hfront, List.map_reverse, List.mem_reverse, List.map_map]
    exact hborn
  obtain ⟨new, hobserved, hsubjects⟩ := Table.observeAll_append s.table.records hnumbers
  refine ⟨new, ?_, hsubjects.trans ?_⟩
  · rw [show s.table.enter births = ⟨front ++ s.table.records⟩ from
      congrArg Table.mk (s.table.records_enter births), hobserved]
  · rw [hfront, List.map_reverse, List.map_map]
    exact congrArg List.reverse (List.map_id _)

theorem records_enter_subjects (T : Table) (births : List (Pid × Command)) :
    ∃ new, (T.enter births).records = new ++ T.records ∧
      new.map Record.subject = births.reverse := by
  refine ⟨_, T.records_enter births, ?_⟩
  rw [List.map_reverse, List.map_map]
  exact congrArg List.reverse (List.map_id _)

/-- A launch makes the processes, and then waits for all of them or for none. -/
theorem runs_launch_parts {r : Except Failure (List Pid)} (hcheck : command.check = .ok ())
    (h : Runs (launch settings command) s t r s') :
    (∃ pids waited u v, ∃ r' : Except Failure Unit, t = u ++ v ∧
        Spawned settings command u (.ok pids) ∧ (waited = pids ∨ waited = []) ∧
        Runs (awaitAll settings waited) { s with table := s.table.enter u.births } v r' s' ∧
        r = r'.map fun _ => pids) ∨
      ∃ e, Spawned settings command t (.error e) ∧ r = .error (.error (.launch e)) ∧
        s' = { s with table := s.table.enter t.births } := by
  rw [launch, hcheck] at h
  rcases runs_bind.1 h with ⟨pids, s₁, u, v, rfl, hu, hv⟩ | ⟨e, rfl, hu⟩
  · obtain ⟨outcome, hspawned, houtcome, rfl⟩ := runs_spawnStages hu
    rcases outcome with e | _ <;> cases houtcome
    refine .inl ?_
    by_cases hblocking : command.isBlocking = true
    · rw [if_pos hblocking] at hv
      rcases runs_bind.1 hv with ⟨_, s₂, w, x, rfl, hw, hx⟩ | ⟨e, rfl, hw⟩
      · obtain ⟨rfl, rfl, rfl⟩ := runs_pure.1 hx
        rw [List.append_nil]
        exact ⟨pids, pids, u, w, _, rfl, hspawned, .inl rfl, hw, rfl⟩
      · exact ⟨pids, pids, u, v, _, rfl, hspawned, .inl rfl, hw, rfl⟩
    · rw [if_neg hblocking] at hv
      obtain ⟨rfl, rfl, rfl⟩ := runs_pure.1 hv
      exact ⟨pids, [], u, [], .ok (), rfl, hspawned, .inr rfl, runs_pure.2 ⟨rfl, rfl, rfl⟩, rfl⟩
  · obtain ⟨outcome, hspawned, houtcome, rfl⟩ := runs_spawnStages hu
    rcases outcome with cause | _ <;> cases houtcome
    exact .inr ⟨cause, hspawned, rfl, rfl⟩

theorem runs_launch {r : Except Failure (List Pid)} (hcheck : command.check = .ok ())
    (h : Runs (launch settings command) s t r s') : Launched command s t r s' := by
  rcases runs_launch_parts hcheck h with
    ⟨pids, waited, u, v, r', rfl, hspawned, hwaited, hv, rfl⟩ | ⟨cause, hspawned, rfl, rfl⟩
  · obtain ⟨hbirths, hpids⟩ := hspawned.births_eq hcheck
    have hnone := hspawned.refusals_eq.1 pids rfl
    have hstages : u.births.map (·.2) = command.stages.map .single := by
      rw [hbirths, List.map_snd_zip (by simp [hpids])]
    have hnumbers : ∀ pid ∈ waited, pid ∈ u.births.map (·.1) := by
      rw [hbirths, List.map_fst_zip (by simp [hpids])]
      rcases hwaited with rfl | rfl
      · exact fun _ => id
      · exact List.forall_mem_nil _
    -- The waits make and refuse nothing, so what is true of the stages is true of the whole.
    obtain ⟨hb, hr, hhistory, hrecords, hwaits⟩ := runs_awaitAll_enter hnumbers hv
    have hend : (r'.map fun _ => pids) = .ok pids ∨ (r'.map fun _ => pids) = .error .stuck := by
      rcases hwaits with rfl | rfl
      · exact .inl rfl
      · exact .inr rfl
    generalize (r'.map fun _ => pids) = r at hend
    have hattempted : ∃ e ∈ u ++ v, e.call.isLaunch := by
      obtain ⟨e, he, hlaunch⟩ := hspawned.exists_isLaunch
      exact ⟨e, List.mem_append_left _ he, hlaunch⟩
    have hallBirths : (u ++ v).births = u.births := by
      rw [Trace.births_append, hb, List.append_nil]
    have hallRefusals : (u ++ v).refusals = [] := by
      rw [Trace.refusals_append, hnone, hr, List.append_nil]
    refine ⟨hattempted, ?_, fun _ => ?_, ?_, hhistory, ?_, ?_, ?_⟩
    · rw [hallBirths, hstages]
    · rw [hallBirths, hstages]
    · rw [hallBirths]
      exact hrecords
    · rw [hallRefusals]
      rcases hend with rfl | rfl <;> simp
    · rcases hend with rfl | rfl <;> simp
    · rcases hend with rfl | rfl <;> simp
  · obtain ⟨hrefusals, hfatal⟩ := hspawned.refusals_eq.2 cause rfl
    refine ⟨hspawned.exists_isLaunch, hspawned.births_isPrefix, fun hnone => ?_,
      records_enter_subjects .., rfl, fun e => ?_, ?_, by simp⟩
    · rw [hrefusals] at hnone
      cases hnone
    · rw [hrefusals, List.mem_singleton]
      exact ⟨fun h => h ▸ rfl, fun h => by cases h; rfl⟩
    · rintro _ ⟨⟩
      exact ⟨hfatal, cause, rfl⟩

end Shell

/-! ## Lines -/

/-- The session after a text has been recorded. -/
def Session.record (s : Session) (text : String) : Session :=
  { s with history := s.history.push text }

namespace Command

/-- A word is never cut inside a character. -/
theorem parse_ne_brokenCut (line : String) : parse line ≠ .error .brokenCut := by
  rw [parse_eq_refuse]
  cases Grammar.ofTokens (Grammar.tokens line.toList) <;> exact nofun

theorem isBlank_of_isSeparator {c : Char} (h : Grammar.isSeparator c) : Text.isBlank c := by
  simp only [Grammar.isSeparator, Bool.or_eq_true, decide_eq_true_eq] at h
  rcases h with ((rfl | rfl) | rfl) | rfl <;> decide

/-- A line holds nothing exactly if only separators stand there. -/
theorem parse_eq_none_iff {line : String} :
    parse line = .ok none ↔ ∀ c ∈ line.toList, Grammar.isSeparator c := by
  have htokens : ∀ ts, Grammar.ofTokens ts = .ok none ↔ ts = [] := by
    intro ts
    rw [Grammar.ofTokens]
    split
    next hnil => exact iff_of_true rfl hnil
    next hne =>
      refine iff_of_false (fun h => ?_) hne
      cases hread : Grammar.readTokens none (.ofArguments []) ts <;> rw [hread] at h <;> cases h
  rw [parse_eq_ok_iff, htokens, Grammar.tokens_eq_nil_iff, List.dropWhile_eq_nil_iff]

/-- Only a line of white space holds nothing. -/
theorem isBlankText_of_parse {line : String} (h : parse line = .ok none) :
    Text.isBlankText line :=
  List.all_eq_true.2 fun c hc => isBlank_of_isSeparator (parse_eq_none_iff.1 h c hc)

end Command

/-- A reference to a line that is not kept is wrong in one of two ways. -/
theorem History.eq_of_resolve_eq_error {h : History} {line : String} {e : ShellError}
    (he : h.resolve line = .error e) : e = .noHistory ∨ e = .invalidHistoryReference := by
  rw [resolve_eq] at he
  generalize reference? line.toList = reference at he
  rcases reference with _ | _ | n
  · cases he
  · change h.last?.elim _ _ = _ at he
    cases hlast : h.last? <;> rw [hlast] at he <;> cases he
    exact .inl rfl
  · change (h.get? n).elim _ _ = _ at he
    cases hget : h.get? n <;> rw [hget] at he <;> cases he
    exact .inr rfl

namespace Shell

variable {settings : Settings} {s s' : Session} {t : Trace} {r : Except Failure Flow}
  {raw text : String}

/-- The text that a line of input is recorded as, if it is recorded. -/
def recorded? (h : History) (raw : String) : Option String :=
  if Text.isBlankText (withoutLineEnd raw) then none
  else (h.resolve (withoutLineEnd raw)).toOption

/-- A line is recorded exactly if it is not blank and can be resolved. -/
theorem recorded?_eq_some_iff {h : History} :
    recorded? h raw = some text ↔
      Text.isBlankText (withoutLineEnd raw) = false ∧
        h.resolve (withoutLineEnd raw) = .ok text := by
  rw [recorded?]
  cases Text.isBlankText (withoutLineEnd raw) <;>
    cases h.resolve (withoutLineEnd raw) <;> simp [Except.toOption]

/-- A recorded line is processed as the text that it is recorded as. -/
theorem run_processLine_of_recorded (settings : Settings)
    (h : recorded? s.history raw = some text) :
    ((processLine settings raw).run s : Program _) = (processResolved settings text).run s :=
  run_processLine_of_resolve (recorded?_eq_some_iff.1 h).1 (recorded?_eq_some_iff.1 h).2

/-- A line that is not recorded changes nothing, and says nothing to the system. -/
theorem run_processLine_of_not_recorded (settings : Settings)
    (h : recorded? s.history raw = none) :
    ∃ r : Except Failure Flow,
      ((processLine settings raw).run s : Program _) = .done (r, s) ∧
        (r = .ok .proceed ∨ r = .error (.error .noHistory) ∨
          r = .error (.error .invalidHistoryReference)) := by
  rw [recorded?] at h
  unfold processLine
  dsimp only
  generalize withoutLineEnd raw = line at h ⊢
  by_cases hblank : Text.isBlankText line
  · rw [if_pos hblank]
    exact ⟨_, rfl, .inl rfl⟩
  · rw [if_neg hblank, run_get_bind]
    rw [if_neg hblank] at h
    rcases hresolved : s.history.resolve line with e | resolved
    · refine ⟨.error (.error e), rfl, .inr ?_⟩
      rcases History.eq_of_resolve_eq_error hresolved with rfl | rfl
      exacts [.inl rfl, .inr rfl]
    · rw [hresolved] at h
      cases h

theorem builtinOn?_eq_some_iff {builtin : Builtin} :
    builtinOn? text = some builtin ↔
      ∃ command, Command.parse text = .ok (some command) ∧ builtin? command = some builtin := by
  rw [builtinOn?]
  constructor
  · intro h
    split at h
    next command hparsed => exact ⟨command, hparsed, h⟩
    next => cases h
  · rintro ⟨command, hparsed, hasked⟩
    rw [hparsed]
    exact hasked

theorem builtinOn?_of_parse {command : Command} (h : Command.parse text = .ok (some command)) :
    builtinOn? text = builtin? command := by
  rw [builtinOn?, h]

theorem execute_of_builtin? {command : Command} {builtin : Builtin}
    (h : builtin? command = some builtin) :
    execute settings command = runBuiltin settings builtin command.first.arguments := by
  rw [execute, h]

theorem run_processResolved_of_parse (settings : Settings) (s : Session) {command : Command}
    (h : Command.parse text = .ok (some command)) :
    ((processResolved settings text).run s : Program _) =
      (execute settings command).run (s.record text) := by
  rw [processResolved, run_modify_bind, h]
  rfl

/-- The ways in which a text can be handled after it has been recorded. -/
inductive Handled (settings : Settings) (s : Session) (text : String) :
    Trace → Except Failure Flow → Session → Prop where
  /-- The text cannot be read. -/
  | unreadable {e : ParseError} (parsed : Command.parse text = .error (.refused e)) :
      Handled settings s text [] (.error (.error (.parse e))) s
  /-- Nothing stands there. -/
  | empty (parsed : Command.parse text = .ok none) : Handled settings s text [] (.ok .proceed) s
  /-- The text asks for a built-in command. -/
  | builtin {command : Command} {builtin : Builtin} {t : Trace} {r : Except Failure Flow}
      {s' : Session} (parsed : Command.parse text = .ok (some command))
      (asked : builtin? command = some builtin)
      (runs : Runs (runBuiltin settings builtin command.first.arguments) s t r s') :
      Handled settings s text t r s'
  /-- What was written before cannot be handed on. -/
  | unflushed {command : Command} (parsed : Command.parse text = .ok (some command))
      (asked : builtin? command = none) (e : Errno) :
      Handled settings s text [⟨.flush, .error e⟩] (.error (.error (.output (.system e)))) s
  /-- The command may not be launched. -/
  | refused {command : Command} {e : LaunchError}
      (parsed : Command.parse text = .ok (some command)) (asked : builtin? command = none)
      (checked : command.check = .error e) :
      Handled settings s text [⟨.flush, .ok ()⟩] (.error (.error (.launch e))) s
  /-- The command is launched. -/
  | launched {command : Command} {t : Trace} {pids : List Pid} {s' : Session}
      (parsed : Command.parse text = .ok (some command)) (asked : builtin? command = none)
      (checked : command.check = .ok ()) (runs : Runs (launch settings command) s t (.ok pids) s') :
      Handled settings s text (⟨.flush, .ok ()⟩ :: t ++ [⟨.log (.launched pids), ()⟩])
        (.ok .proceed) s'
  /-- The launch fails. -/
  | unlaunched {command : Command} {t : Trace} {e : Failure} {s' : Session}
      (parsed : Command.parse text = .ok (some command)) (asked : builtin? command = none)
      (checked : command.check = .ok ()) (runs : Runs (launch settings command) s t (.error e) s') :
      Handled settings s text (⟨.flush, .ok ()⟩ :: t) (.error e) s'

theorem handled_of_runs_execute {command : Command}
    (parsed : Command.parse text = .ok (some command))
    (h : Runs (execute settings command) s t r s') : Handled settings s text t r s' := by
  rw [execute] at h
  split at h
  next builtin hbuiltin => exact .builtin parsed hbuiltin h
  next hnone =>
    rw [flush, bind_assoc] at h
    obtain ⟨answer, u, rfl, hu⟩ := runs_ask_bind.1 h
    rcases answer with e | _
    · obtain ⟨rfl, rfl, rfl⟩ := runs_fail.1 hu
      exact .unflushed parsed hnone e
    · change Runs (launch settings command >>= _) s u r s' at hu
      rcases hcheck : command.check with e | _
      · rw [launch, hcheck] at hu
        obtain ⟨rfl, rfl, rfl⟩ := runs_fail.1 hu
        exact .refused parsed hnone hcheck
      · rcases runs_bind.1 hu with ⟨pids, s₁, v, w, rfl, hv, hw⟩ | ⟨e, rfl, hv⟩
        · obtain ⟨x, rfl, hx⟩ := runs_log_bind.1 hw
          obtain ⟨rfl, rfl, rfl⟩ := runs_pure.1 hx
          exact .launched parsed hnone hcheck hv
        · exact .unlaunched parsed hnone hcheck hv

/-- A text is recorded before it is handled, and handled in one of these ways. -/
theorem runs_processResolved_cases (h : Runs (processResolved settings text) s t r s') :
    Handled settings (s.record text) text t r s' := by
  rw [processResolved, runs_modify_bind] at h
  rcases hparsed : Command.parse text with (e | _) | _ | command <;> rw [hparsed] at h
  · obtain ⟨rfl, rfl, rfl⟩ := runs_fail.1 h
    exact .unreadable hparsed
  · exact absurd hparsed (Command.parse_ne_brokenCut text)
  · obtain ⟨rfl, rfl, rfl⟩ := runs_pure.1 h
    exact .empty hparsed
  · exact handled_of_runs_execute hparsed h

/-- A line that is recorded is handled afterwards, and any other line changes nothing. -/
theorem runs_processLine_cases (h : Runs (processLine settings raw) s t r s') :
    (recorded? s.history raw = none ∧ t = [] ∧ s' = s ∧
        (r = .ok .proceed ∨ r = .error (.error .noHistory) ∨
          r = .error (.error .invalidHistoryReference))) ∨
      ∃ text, recorded? s.history raw = some text ∧
        Handled settings (s.record text) text t r s' := by
  rcases hrecorded : recorded? s.history raw with _ | text
  · obtain ⟨r', hprogram, hresult⟩ := run_processLine_of_not_recorded settings hrecorded
    rw [Runs, hprogram, Program.runs_done] at h
    obtain ⟨rfl, ⟨⟩⟩ := h
    exact .inl ⟨rfl, rfl, rfl, hresult⟩
  · rw [Runs, run_processLine_of_recorded settings hrecorded] at h
    exact .inr ⟨text, rfl, runs_processResolved_cases h⟩

end Shell

end JobShell
