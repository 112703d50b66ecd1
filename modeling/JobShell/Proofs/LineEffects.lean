import JobShell.Proofs.Recording

/-!
# What a line does to the processes

Everything that a line can do to the processes and to the table is decided by the command on it: a
built-in command runs, or a launch is attempted, or neither. Main statement: `processLine_effects`
says which of these happens and what comes of it, and that nothing else changes.
-/

namespace JobShell

namespace Builtin

/-- The name that a built-in command is called by. -/
def name : Builtin → String
  | cd => "cd"
  | procs => "procs"
  | hist => "hist"
  | control what => what.keyword
  | quit => "quit"

theorem ofName?_eq_some_iff {s : String} {builtin : Builtin} :
    ofName? s = some builtin ↔ s = builtin.name := by
  constructor
  · intro h
    unfold ofName? at h
    split at h
    · cases h; rfl
    · cases h; rfl
    · cases h; rfl
    · cases h; rfl
    · obtain ⟨what, hwhat, rfl⟩ := Option.map_eq_some_iff.1 h
      exact Control.ofKeyword?_eq_some_iff.1 hwhat
  · rintro rfl
    cases builtin with
    | control what => cases what <;> rfl
    | cd | procs | hist | quit => rfl

/-- The names of all built-in commands. -/
def names : List String := ["cd", "procs", "hist", "halt", "wakeup", "ice", "quit"]

theorem mem_names_iff {s : String} : s ∈ names ↔ ∃ builtin : Builtin, s = builtin.name := by
  constructor
  · intro h
    simp only [names, List.mem_cons, List.not_mem_nil, or_false] at h
    rcases h with rfl | rfl | rfl | rfl | rfl | rfl | rfl
    · exact ⟨cd, rfl⟩
    · exact ⟨procs, rfl⟩
    · exact ⟨hist, rfl⟩
    · exact ⟨control .halt, rfl⟩
    · exact ⟨control .wakeup, rfl⟩
    · exact ⟨control .ice, rfl⟩
    · exact ⟨quit, rfl⟩
  · rintro ⟨builtin, rfl⟩
    cases builtin with
    | control what => cases what <;> decide
    | cd | procs | hist | quit => decide

end Builtin

namespace Command

variable {c : Command}

/-- A command that the shell carries out itself: it has one stage, and begins with the name of a
built-in command. Its redirections and its other arguments do not matter. -/
def IsBuiltin (c : Command) : Prop :=
  c.rest = [] ∧ ∃ name ∈ Builtin.names, c.first.arguments.head? = some name

/-- A command that the shell makes processes for. -/
structure Launchable (c : Command) : Prop where
  notBuiltin : ¬ c.IsBuiltin
  output : c.rest ≠ [] → c.first.output = none
  input : ∀ second, c.rest.head? = some second → second.input = none
  nul : ∀ s ∈ c.stages, ∀ arg ∈ s.arguments, '\x00' ∉ arg.toList

/-- The process that a control command is to act on, if its argument names one. -/
def target? (c : Command) : Option Pid := c.first.arguments[1]?.bind Pid.ofText?

theorem builtin?_eq_some_iff {builtin : Builtin} :
    Shell.builtin? c = some builtin ↔
      c.rest = [] ∧ c.first.arguments.head? = some builtin.name := by
  rw [Shell.builtin?, isPipeline]
  rcases c.rest with _ | ⟨second, more⟩
  · have hname : c.name = builtin.name ↔ c.first.arguments.head? = some builtin.name := by
      rw [name, Stage.name]
      rcases c.first.arguments with _ | ⟨arg, rest⟩
      · -- No built-in command has an empty name.
        refine iff_of_false (fun h => ?_) nofun
        cases builtin with
        | control what => cases what <;> exact absurd h (by decide)
        | cd | procs | hist | quit => exact absurd h (by decide)
      · exact ⟨congrArg some, Option.some.inj⟩
    simp [Builtin.ofName?_eq_some_iff, hname]
  · simp

theorem isBuiltin_iff : c.IsBuiltin ↔ ∃ builtin, Shell.builtin? c = some builtin := by
  simp only [IsBuiltin, builtin?_eq_some_iff, Builtin.mem_names_iff]
  constructor
  · rintro ⟨hrest, _, ⟨builtin, rfl⟩, hhead⟩
    exact ⟨builtin, hrest, hhead⟩
  · rintro ⟨builtin, hrest, hhead⟩
    exact ⟨hrest, _, ⟨builtin, rfl⟩, hhead⟩

theorem builtin?_eq_none_iff : Shell.builtin? c = none ↔ ¬ c.IsBuiltin := by
  rw [isBuiltin_iff, ← Option.ne_none_iff_exists', not_not]

theorem wellFormed_of_parse {text : String} (h : parse text = .ok (some c)) : c.WellFormed :=
  Grammar.wellFormed_of_ofTokens (parse_eq_ok_iff.1 h)

theorem wellFormed_of_mem_stages (hc : c.WellFormed) : ∀ s ∈ c.stages, s.WellFormed :=
  List.forall_mem_cons.2 ⟨hc.first, hc.rest⟩

theorem stage_arguments_ne_nil (hc : c.WellFormed) : ∀ s ∈ c.stages, s.arguments ≠ [] :=
  fun s hs => (wellFormed_of_mem_stages hc s hs).arguments_ne_nil

/-- Of the commands that lines hold, the launchable ones are those that pass the check. -/
theorem launchable_iff (hc : c.WellFormed) :
    c.Launchable ↔ Shell.builtin? c = none ∧ c.check = .ok () := by
  rw [builtin?_eq_none_iff, check_eq_ok_iff, checkRedirects_eq_ok_iff]
  constructor
  · intro h
    refine ⟨h.notBuiltin, ⟨h.output, h.input, hc.length_rest⟩, fun s hs => ?_⟩
    exact Stage.check_eq_ok_iff.2 ⟨stage_arguments_ne_nil hc s hs, h.nul s hs⟩
  · rintro ⟨hnot, ⟨houtput, hinput, -⟩, hstages⟩
    exact ⟨hnot, houtput, hinput, fun s hs => (Stage.check_eq_ok_iff.1 (hstages s hs)).2⟩

/-- Why the check refuses a command that a line holds. -/
theorem eq_of_check_of_wellFormed (hc : c.WellFormed) {e : LaunchError} (h : c.check = .error e) :
    e = .outputBeforePipe ∨ e = .inputAfterPipe ∨ ∃ position, e = .nul position := by
  rcases eq_of_check_eq_error h with h | h | h | ⟨-, h⟩ | ⟨-, s, hs, hnil⟩
  · exact .inl h
  · exact .inr (.inl h)
  · exact .inr (.inr h)
  · exact absurd hc.length_rest h.not_ge
  · exact absurd hnil (stage_arguments_ne_nil hc s hs)

end Command

namespace Shell

variable {settings : Settings} {s s' : Session} {t : Trace} {r : Except Failure Flow}
  {raw text : String} {arguments : List String}

/-! ## Built-in commands -/

theorem runs_argument {r : Except Failure String} (h : Runs (argument arguments) s t r s') :
    t = [] ∧ s' = s ∧
      ((∃ arg, arguments[1]? = some arg ∧ r = .ok arg) ∨
        (arguments[1]? = none ∧ ∃ e, r = .error e)) := by
  rcases arguments with _ | ⟨name, _ | ⟨arg, rest⟩⟩
  · obtain ⟨rfl, rfl, rfl⟩ := runs_throw.1 h
    exact ⟨rfl, rfl, .inr ⟨rfl, _, rfl⟩⟩
  · obtain ⟨rfl, rfl, rfl⟩ := runs_fail.1 h
    exact ⟨rfl, rfl, .inr ⟨rfl, _, rfl⟩⟩
  · obtain ⟨rfl, rfl, rfl⟩ := runs_pure.1 h
    exact ⟨rfl, rfl, .inl ⟨arg, rfl, rfl⟩⟩

theorem runs_dispatch {pid : Pid} {control : Control} {r : Except Failure Unit}
    (h : Runs (dispatch pid control) s t r s') :
    s' = { s with table := s.table.predict pid control.predicted } := by
  rw [dispatch, runs_get_bind, runs_modifyTable_bind] at h
  obtain ⟨u, rfl, hu⟩ := runs_log_bind.1 h
  obtain ⟨answer, v, rfl, hv⟩ := runs_ask_bind.1 hu
  rcases answer with e | _
  · obtain ⟨w, rfl, hw⟩ := runs_log_bind.1 hv
    obtain ⟨-, -, rfl⟩ := runs_fail.1 hw
    rfl
  · obtain ⟨-, -, rfl⟩ := runs_pure.1 hv
    rfl

/-- A control command writes down one prediction if its argument names a process, and otherwise
changes nothing. -/
theorem runs_actOnProcess {control : Control} {r : Except Failure Unit}
    (h : Runs (actOnProcess control arguments) s t r s') :
    s' = (arguments[1]?.bind Pid.ofText?).elim s fun pid =>
      { s with table := s.table.predict pid control.predicted } := by
  rcases runs_bind.1 h with ⟨arg, s₁, u, v, rfl, hu, hv⟩ | ⟨e, rfl, hu⟩
  · obtain ⟨rfl, rfl, ⟨_, harg, ⟨⟩⟩ | ⟨-, e, ⟨⟩⟩⟩ := runs_argument hu
    rw [harg, Option.bind_some]
    rcases hpid : Pid.ofText? arg with _ | pid
    · rw [hpid] at hv
      exact (runs_fail.1 hv).2.2
    · rw [hpid] at hv
      exact runs_dispatch hv
  · obtain ⟨rfl, rfl, ⟨_, -, ⟨⟩⟩ | ⟨hnone, -⟩⟩ := runs_argument hu
    rw [hnone]
    rfl

/-- A control command fails or goes on, and its own part does all that happens. -/
theorem runs_control {control : Control}
    (h : Runs (runBuiltin settings (.control control) arguments) s t r s') :
    s' = (arguments[1]?.bind Pid.ofText?).elim s fun pid =>
      { s with table := s.table.predict pid control.predicted } := by
  rcases runs_bind.1 h with ⟨_, s₁, u, v, rfl, hu, hv⟩ | ⟨e, rfl, hu⟩
  · obtain ⟨-, -, rfl⟩ := runs_pure.1 hv
    exact runs_actOnProcess hu
  · exact runs_actOnProcess hu

/-- The table is as the listing leaves it, also if the listing cannot be written. -/
theorem runs_procs (h : Runs (runBuiltin settings .procs arguments) s t r s')
    (hends : r ≠ .error .stuck) :
    ∃ entries u, u <+: t ∧ Runs (listAndReap settings) s u (.ok entries) s' := by
  have hlist : ∀ {t} {r : Except Failure Unit} {s'}, Runs (listProcesses settings) s t r s' →
      r ≠ .error .stuck →
        ∃ entries u, u <+: t ∧ Runs (listAndReap settings) s u (.ok entries) s' := by
    intro t r s' h hends
    rcases runs_bind.1 h with ⟨entries, s₁, u, v, rfl, hu, hv⟩ | ⟨e, rfl, hu⟩
    · obtain ⟨rfl, -⟩ := runs_writeAll hv
      exact ⟨entries, u, List.prefix_append u v, hu⟩
    · obtain ⟨_, _, _, _, _, _, _, h, -⟩ := runs_listAndReap hu (error_ne_stuck hends)
      cases h
  rcases runs_bind.1 h with ⟨_, s₁, u, v, rfl, hu, hv⟩ | ⟨e, rfl, hu⟩
  · obtain ⟨rfl, -, rfl⟩ := runs_pure.1 hv
    rw [List.append_nil]
    exact hlist hu nofun
  · exact hlist hu (error_ne_stuck hends)

theorem runs_cd_hist {builtin : Builtin} (hbuiltin : builtin = .cd ∨ builtin = .hist)
    (h : Runs (runBuiltin settings builtin arguments) s t r s') : s' = s := by
  rcases hbuiltin with rfl | rfl
  · have hidle : Confined idle (Failure.IsOfBuiltin .cd arguments)
        (runBuiltin settings .cd arguments) :=
      .bind (idle_changeDirectory arguments) fun _ => .pure _
    exact (hidle.within h).1
  · have hidle : Confined idle (Failure.IsOfBuiltin .hist arguments)
        (runBuiltin settings .hist arguments) := .bind idle_listHistory fun _ => .pure _
    exact (hidle.within h).1

/-- What a built-in command says to the system, and how it can fail. -/
theorem runs_runBuiltin_quietly {builtin : Builtin}
    (h : Runs (runBuiltin settings builtin arguments) s t r s') :
    (∀ e ∈ t, e.call.isOfBuiltin) ∧ (∀ e, r = .error (.error e) → e.isOfBuiltin) ∧
      (arguments ≠ [] → r ≠ .error .crash) := by
  by_cases hquit : builtin = .quit
  · subst hquit
    obtain ⟨rfl, rfl, -⟩ := runs_quit.1 h
    exact ⟨List.forall_mem_nil _, nofun, fun _ => nofun⟩
  · have hchores : Confined chores (Failure.IsOfBuiltin builtin arguments)
        (runBuiltin settings builtin arguments) := chores_runBuiltin hquit arguments
    refine ⟨(hchores.within h).2, ?_, ?_⟩
    · rintro e rfl
      exact hchores.failure h
    · rintro harguments rfl
      exact harguments (hchores.failure h)

/-! ## Lines -/

/-- Nothing has been launched for a text. -/
structure Unlaunched (text : String) (t : Trace) (r : Except Failure Flow) : Prop where
  calls : ∀ e ∈ t, e.call.isLaunch = false
  sturdy : r ≠ .error .crash
  bearable : ∀ e, r = .error (.error e) → e.isFatal = false
  refused : ∀ e, r = .error (.error (.launch e)) →
    e = .outputBeforePipe ∨ e = .inputAfterPipe ∨ ∃ position, e = .nul position
  /-- If output could be handed on, it holds no command that can be launched. -/
  reason : (∀ e, (⟨.flush, .error e⟩ : Exchange) ∉ t) →
    ∀ command, Command.parse text = .ok (some command) → ¬ command.Launchable

theorem ShellError.bearable_of_isOfBuiltin {e : ShellError} (h : e.isOfBuiltin) :
    e.isFatal = false ∧ ∀ cause, e ≠ .launch cause := by
  cases e with
  | launch | parse | noHistory | invalidHistoryReference => cases h
  | _ => exact ⟨rfl, nofun⟩

/-- A text that has been handled has been launched or not, and holds a command that can be launched
or does not. -/
theorem Handled.launch_cases (h : Handled settings s text t r s') :
    (∃ command, Command.parse text = .ok (some command) ∧ command.Launchable ∧
        Launched command s t r s') ∨
      Unlaunched text t r := by
  have hunique : ∀ {command command'}, Command.parse text = .ok (some command) →
      Command.parse text = .ok (some command') → command = command' := by
    intro command command' hparsed hparsed'
    rw [hparsed] at hparsed'
    exact Option.some.inj (Except.ok.inj hparsed')
  cases h with
  | unreadable parsed =>
    refine .inr ⟨List.forall_mem_nil _, nofun, ?_, nofun, fun _ command h => ?_⟩
    · rintro _ ⟨⟩
      rfl
    · rw [parsed] at h
      cases h
  | empty parsed =>
    refine .inr ⟨List.forall_mem_nil _, nofun, nofun, nofun, fun _ command h => ?_⟩
    rw [parsed] at h
    cases h
  | @builtin command builtin _ _ _ parsed asked runs =>
    have harguments := (Command.wellFormed_of_parse parsed).first.arguments_ne_nil
    obtain ⟨hcalls, herrors, hsturdy⟩ := runs_runBuiltin_quietly runs
    refine .inr ⟨fun e he => Call.isLaunch_of_isOfBuiltin (hcalls e he), hsturdy harguments,
      fun e he => ?_, fun e he => ?_, fun _ command' h hlaunchable => ?_⟩
    · exact (ShellError.bearable_of_isOfBuiltin (herrors e he)).1
    · exact absurd rfl ((ShellError.bearable_of_isOfBuiltin (herrors _ he)).2 e)
    · obtain rfl := hunique parsed h
      exact hlaunchable.notBuiltin (Command.isBuiltin_iff.2 ⟨builtin, asked⟩)
  | unflushed parsed asked e =>
    refine .inr ⟨List.forall_mem_singleton.2 rfl, nofun, ?_, nofun, fun hflush => ?_⟩
    · rintro _ ⟨⟩
      rfl
    · exact absurd List.mem_cons_self (hflush e)
  | @refused command e parsed asked checked =>
    have hwellFormed := Command.wellFormed_of_parse parsed
    have hcause := Command.eq_of_check_of_wellFormed hwellFormed checked
    refine .inr ⟨List.forall_mem_singleton.2 rfl, nofun, ?_, ?_, fun _ command' h hlaunchable => ?_⟩
    · rintro _ ⟨⟩
      rcases hcause with rfl | rfl | ⟨position, rfl⟩ <;> rfl
    · rintro _ ⟨⟩
      exact hcause
    · obtain rfl := hunique parsed h
      rw [((Command.launchable_iff hwellFormed).1 hlaunchable).2] at checked
      cases checked
  | @launched command u pids _ parsed asked checked runs =>
    have hlaunchable :=
      (Command.launchable_iff (Command.wellFormed_of_parse parsed)).2 ⟨asked, checked⟩
    have hsame : ∀ e, (.ok .proceed : Except Failure Flow) = .error e ↔
        (.ok pids : Except Failure (List Pid)) = .error e := fun _ => iff_of_false nofun nofun
    exact .inl ⟨command, parsed, hlaunchable,
      (runs_launch checked runs).surround hsame [_] [_] (by simp [Call.isLaunch])⟩
  | @unlaunched command u e _ parsed asked checked runs =>
    have hlaunchable :=
      (Command.launchable_iff (Command.wellFormed_of_parse parsed)).2 ⟨asked, checked⟩
    have hsame : ∀ e', (.error e : Except Failure Flow) = .error e' ↔
        (.error e : Except Failure (List Pid)) = .error e' := by simp
    have hlaunched :=
      (runs_launch checked runs).surround hsame [⟨.flush, .ok ()⟩] [] (by simp [Call.isLaunch])
    rw [List.append_nil] at hlaunched
    exact .inl ⟨command, parsed, hlaunchable, hlaunched⟩

/-- What becomes of the table when a text is handled. -/
inductive Alters (settings : Settings) (s : Session) (text : String) (t : Trace) :
    Table → Prop where
  /-- A launch puts a record for each process made in front of the others. -/
  | launched {command : Command} {new : List Record}
      (parsed : Command.parse text = .ok (some command)) (launchable : command.Launchable)
      (subjects : new.map Record.subject = t.births.reverse) :
      Alters settings s text t ⟨new ++ s.table.records⟩
  /-- A listing refreshes the records and drops the dead ones. -/
  | listed {entries : List Entry} {u : Trace} {s' : Session}
      (asked : builtinOn? text = some .procs) (said : u <+: t)
      (runs : Runs (listAndReap settings) s u (.ok entries) s') :
      Alters settings s text t s'.table
  /-- The end of the shell drops all records. -/
  | emptied (asked : builtinOn? text = some .quit) : Alters settings s text t .empty
  /-- A control command that names a process writes down what is expected of it. -/
  | predicted {command : Command} {control : Control} {pid : Pid}
      (parsed : Command.parse text = .ok (some command))
      (asked : builtin? command = some (.control control)) (target : command.target? = some pid) :
      Alters settings s text t (s.table.predict pid control.predicted)
  /-- Any other text leaves the table alone. -/
  | unchanged
      (launches : ∀ command, Command.parse text = .ok (some command) → ¬ command.Launchable)
      (procs : builtinOn? text ≠ some .procs) (quit : builtinOn? text ≠ some .quit)
      (controls : ∀ command control, Command.parse text = .ok (some command) →
        builtin? command = some (.control control) → command.target? = none) :
      Alters settings s text t s.table

/-- A text that holds no command leaves the table alone. -/
theorem Alters.of_unparsed (h : ∀ command, Command.parse text ≠ .ok (some command)) :
    Alters settings s text t s.table := by
  have hnone : builtinOn? text = none := by
    rw [Option.eq_none_iff_forall_not_mem]
    intro builtin hbuiltin
    obtain ⟨command, hparsed, -⟩ := builtinOn?_eq_some_iff.1 hbuiltin
    exact h command hparsed
  refine .unchanged (fun command hparsed => absurd hparsed (h command)) ?_ ?_
    fun command _ hparsed => absurd hparsed (h command)
  · rw [hnone]
    exact nofun
  · rw [hnone]
    exact nofun

/-- What the text holds decides whether it leaves the table alone. -/
theorem Alters.of_parsed {command : Command} (parsed : Command.parse text = .ok (some command))
    (hlaunchable : ¬ command.Launchable) (hprocs : builtin? command ≠ some .procs)
    (hquit : builtin? command ≠ some .quit)
    (hcontrol : ∀ control, builtin? command = some (.control control) → command.target? = none) :
    Alters settings s text t s.table := by
  have hcommand : ∀ {command'}, Command.parse text = .ok (some command') → command = command' := by
    intro command' h
    rw [parsed] at h
    exact Option.some.inj (Except.ok.inj h)
  refine .unchanged (fun command' h => ?_) ?_ ?_ fun command' control h hasked => ?_
  · exact hcommand h ▸ hlaunchable
  · rwa [builtinOn?_of_parse parsed]
  · rwa [builtinOn?_of_parse parsed]
  · obtain rfl := hcommand h
    exact hcontrol control hasked

/-- Everything that handling a text can do to the table. -/
theorem Handled.alters (h : Handled settings s text t r s') (hends : r ≠ .error .stuck)
    (hflush : ∀ e, (⟨.flush, .error e⟩ : Exchange) ∉ t) : Alters settings s text t s'.table := by
  rcases h.launch_cases with ⟨command, parsed, hlaunchable, hlaunched⟩ | hunlaunched
  · obtain ⟨new, hrecords, hsubjects⟩ := hlaunched.records
    have htable : s'.table = ⟨new ++ s.table.records⟩ := congrArg Table.mk hrecords
    rw [htable]
    exact .launched parsed hlaunchable hsubjects
  -- Nothing was launched, so the text holds no command that can be.
  have hnot := hunlaunched.reason hflush
  cases h with
  | unreadable parsed =>
    refine .of_unparsed fun command h => ?_
    rw [parsed] at h
    cases h
  | empty parsed =>
    refine .of_unparsed fun command h => ?_
    rw [parsed] at h
    cases h
  | @builtin command builtin _ _ _ parsed asked runs =>
    have hasked := builtinOn?_eq_some_iff.2 ⟨command, parsed, asked⟩
    have hlaunchable := hnot command parsed
    cases builtin with
    | cd =>
      rw [runs_cd_hist (.inl rfl) runs]
      exact .of_parsed parsed hlaunchable (by simp [asked]) (by simp [asked]) (by simp [asked])
    | hist =>
      rw [runs_cd_hist (.inr rfl) runs]
      exact .of_parsed parsed hlaunchable (by simp [asked]) (by simp [asked]) (by simp [asked])
    | procs =>
      obtain ⟨entries, u, hsaid, hlisted⟩ := runs_procs runs hends
      exact .listed hasked hsaid hlisted
    | quit =>
      obtain ⟨-, -, rfl⟩ := runs_quit.1 runs
      exact .emptied hasked
    | control control =>
      rw [runs_control runs]
      rcases htarget : command.target? with _ | pid
      · rw [show command.first.arguments[1]?.bind Pid.ofText? = none from htarget]
        exact .of_parsed parsed hlaunchable (by simp [asked]) (by simp [asked]) fun _ _ => htarget
      · rw [show command.first.arguments[1]?.bind Pid.ofText? = some pid from htarget]
        exact .predicted parsed asked htarget
  | unflushed parsed asked e => exact absurd List.mem_cons_self (hflush e)
  | refused parsed asked checked =>
    exact .of_parsed parsed (hnot _ parsed) (by simp [asked]) (by simp [asked]) (by simp [asked])
  | launched parsed asked checked | unlaunched parsed asked checked =>
    have hlaunchable := Command.launchable_iff (Command.wellFormed_of_parse parsed)
    exact absurd (hlaunchable.2 ⟨asked, checked⟩) (hnot _ parsed)

/-- A text that was handled by a built-in command holds one. -/
theorem Handled.isBuiltin {s₁ : Session} {builtin : Builtin} (h : Handled settings s text t r s')
    (hne : Command.parse text ≠ .ok none)
    (hruns : Runs (runBuiltin settings builtin arguments) s₁ t r s') :
    ∃ command, Command.parse text = .ok (some command) ∧ command.IsBuiltin := by
  obtain ⟨hcalls, herrors, -⟩ := runs_runBuiltin_quietly hruns
  cases h with
  | unreadable parsed => exact nomatch herrors _ rfl
  | empty parsed => exact absurd parsed hne
  | @builtin command builtin _ _ _ parsed asked runs =>
    exact ⟨command, parsed, Command.isBuiltin_iff.2 ⟨builtin, asked⟩⟩
  | unflushed | refused | launched | unlaunched => exact nomatch hcalls _ List.mem_cons_self

/-- What a line does that is recorded as a text. -/
structure Effects (settings : Settings) (s : Session) (raw text : String) (t : Trace)
    (r : Except Failure Flow) (s' : Session) : Prop where
  /-- There is something on it. -/
  read : Command.parse text ≠ .ok none
  /-- A built-in command runs exactly if the text holds one. -/
  builtin : (∃ builtin arguments, ((processLine settings raw).run s : Program _) =
      (runBuiltin settings builtin arguments).run (s.record text)) ↔
    ∃ command, Command.parse text = .ok (some command) ∧ command.IsBuiltin
  /-- It is the one of that name, and is given the arguments as they stand on the line. -/
  called : ∀ command builtin, Command.parse text = .ok (some command) → command.rest = [] →
    command.first.arguments.head? = some builtin.name →
      ((processLine settings raw).run s : Program _) =
        (runBuiltin settings builtin command.first.arguments).run (s.record text)
  /-- A launch is attempted exactly if the text holds a command that can be launched. -/
  attempted : (∃ e ∈ t, e.call.isLaunch) ↔
    ∃ command, Command.parse text = .ok (some command) ∧ command.Launchable
  /-- If the system refuses nothing then, each stage gets one process. -/
  complete : ∀ command, Command.parse text = .ok (some command) → command.Launchable →
    t.refusals = [] → t.births.map (·.2) = command.stages.map .single
  /-- No other text makes a process. -/
  unborn : (∀ command, Command.parse text = .ok (some command) → ¬ command.Launchable) →
    t.births = []
  /-- The table changes in one of four ways, or not at all. -/
  table : Alters settings (s.record text) text t s'.table
  /-- The shell does not break down. -/
  sturdy : r ≠ .error .crash
  /-- What the system refuses to make is fatal, and nothing else is. -/
  fatal : ∀ e, r = .error (.error e) → (e.isFatal ↔ ∃ cause ∈ t.refusals, e = .launch cause)
  /-- An error that is not fatal has launched nothing. -/
  bearable : ∀ e, r = .error (.error e) → e.isFatal = false → ∀ x ∈ t, x.call.isLaunch = false
  /-- Of the checks that a launch makes three can fail. -/
  refused : ∀ e, r = .error (.error (.launch e)) → e.isFatal = false →
    e = .outputBeforePipe ∨ e = .inputAfterPipe ∨ ∃ position, e = .nul position

theorem Handled.effects (h : Handled settings (s.record text) text t r s')
    (hprogram : ((processLine settings raw).run s : Program _) =
      (processResolved settings text).run s)
    (hruns : Runs (processLine settings raw) s t r s') (hne : Command.parse text ≠ .ok none)
    (hends : r ≠ .error .stuck) (hflush : ∀ e, (⟨.flush, .error e⟩ : Exchange) ∉ t) :
    Effects settings s raw text t r s' := by
  have hcalled : ∀ command builtin, Command.parse text = .ok (some command) → command.rest = [] →
      command.first.arguments.head? = some builtin.name →
        ((processLine settings raw).run s : Program _) =
          (runBuiltin settings builtin command.first.arguments).run (s.record text) := by
    intro command builtin hparsed hrest hname
    have hasked := Command.builtin?_eq_some_iff.2 ⟨hrest, hname⟩
    rw [hprogram, run_processResolved_of_parse settings s hparsed, execute_of_builtin? hasked]
  have hbuiltin : (∃ builtin arguments, ((processLine settings raw).run s : Program _) =
        (runBuiltin settings builtin arguments).run (s.record text)) ↔
      ∃ command, Command.parse text = .ok (some command) ∧ command.IsBuiltin := by
    constructor
    · rintro ⟨builtin, arguments, hsame⟩
      rw [Runs, hsame] at hruns
      exact h.isBuiltin hne hruns
    · rintro ⟨command, hparsed, hcommand⟩
      obtain ⟨builtin, hasked⟩ := Command.isBuiltin_iff.1 hcommand
      obtain ⟨hrest, hname⟩ := Command.builtin?_eq_some_iff.1 hasked
      exact ⟨builtin, _, hcalled command builtin hparsed hrest hname⟩
  have htable := h.alters hends hflush
  -- What is left depends on whether there was a launch.
  rcases h.launch_cases with ⟨command, hparsed, hlaunchable, hlaunched⟩ | hunlaunched
  · have hfatal : ∀ e, r = .error (.error e) →
        e.isFatal ∧ ∃ cause ∈ t.refusals, e = .launch cause := by
      intro e he
      obtain ⟨hfatal, cause, rfl⟩ := hlaunched.fatal e he
      exact ⟨hfatal, cause, (hlaunched.refused cause).2 he, rfl⟩
    refine ⟨hne, hbuiltin, hcalled, iff_of_true hlaunched.attempted ⟨command, hparsed, hlaunchable⟩,
      fun command' hparsed' _ => ?_, fun hnot => absurd hlaunchable (hnot command hparsed), htable,
      hlaunched.sturdy, fun e he => ?_, fun e he hbearable => ?_, fun e he hbearable => ?_⟩
    · rw [hparsed] at hparsed'
      cases hparsed'
      exact hlaunched.complete
    · exact iff_of_true (hfatal e he).1 (hfatal e he).2
    · exact absurd (hfatal e he).1 (by simp [hbearable])
    · exact absurd (hfatal _ he).1 (by simp [ShellError.isFatal, hbearable])
  · have hnot := hunlaunched.reason hflush
    obtain ⟨hbirths, hrefusals⟩ := Trace.births_refusals_of_forall hunlaunched.calls
    refine ⟨hne, hbuiltin, hcalled, iff_of_false ?_ ?_, fun command' hparsed' hlaunchable => ?_,
      fun _ => hbirths, htable, hunlaunched.sturdy, fun e he => iff_of_false ?_ ?_,
      fun _ _ _ => hunlaunched.calls, fun e he _ => hunlaunched.refused e he⟩
    · rintro ⟨e, he, hlaunch⟩
      rw [hunlaunched.calls e he] at hlaunch
      cases hlaunch
    · rintro ⟨command, hparsed, hlaunchable⟩
      exact hnot command hparsed hlaunchable
    · exact absurd hlaunchable (hnot command' hparsed')
    · simp [hunlaunched.bearable e he]
    · rintro ⟨cause, hcause, -⟩
      rw [hrefusals] at hcause
      cases hcause

/-- What a line does to the processes, from any session that lines lead to, if output can be handed
on. A line that is not recorded does nothing at all. -/
theorem processLine_effects {ps : List Passage} (hrun : Passages settings .fresh ps s)
    (raw : String) (hruns : Runs (processLine settings raw) s t r s') (hends : r ≠ .error .stuck)
    (hflush : ∀ e, (⟨.flush, .error e⟩ : Exchange) ∉ t) :
    (recorded? s.history raw = none → t = [] ∧ s' = s) ∧
      ∀ text, recorded? s.history raw = some text → Effects settings s raw text t r s' := by
  rcases runs_processLine_cases hruns with ⟨hnone, htrace, hsession, -⟩ | ⟨text, hsome, hhandled⟩
  · refine ⟨fun _ => ⟨htrace, hsession⟩, fun text h => ?_⟩
    rw [hnone] at h
    cases h
  · refine ⟨fun h => ?_, fun text' h => ?_⟩
    · rw [hsome] at h
      cases h
    · rw [hsome] at h
      cases h
      obtain ⟨_, hprocesses⟩ := hrun.processes
      obtain ⟨hblank, hresolved⟩ := recorded?_eq_some_iff.1 hsome
      have hnotBlank := (Literal.of_resolve hprocesses.literal hblank hresolved).notBlank
      refine hhandled.effects (run_processLine_of_recorded settings hsome) hruns (fun hnone => ?_)
        hends hflush
      rw [Command.isBlankText_of_parse hnone] at hnotBlank
      cases hnotBlank

/-- The second line of `Relisted` launches a program in the background. -/
theorem processLine_effects_relisted :
    Passages Recycled.silent .fresh [Relisted.first] Relisted.first.after ∧
      Runs (processLine Recycled.silent "b &") Relisted.first.after Recycled.background
        (.ok .proceed) Recycled.session ∧
      (∀ e, (⟨.flush, .error e⟩ : Exchange) ∉ Recycled.background) ∧
      recorded? Relisted.first.after.history "b &" = some "b &" ∧
      Effects Recycled.silent Relisted.first.after "b &" "b &" Recycled.background (.ok .proceed)
        Recycled.session := by
  have hrun : Passages Recycled.silent .fresh [Relisted.first] Relisted.first.after :=
    .snoc Relisted.first (.nil _) Recycled.runs_foreground nofun
  have hflush : ∀ e, (⟨.flush, .error e⟩ : Exchange) ∉ Recycled.background := by
    simp [Recycled.background]
  have hrecorded : recorded? Relisted.first.after.history "b &" = some "b &" := by decide
  obtain ⟨-, heffects⟩ :=
    processLine_effects hrun "b &" Recycled.runs_background nofun hflush
  exact ⟨hrun, Recycled.runs_background, hflush, hrecorded, heffects "b &" hrecorded⟩

end Shell

end JobShell
