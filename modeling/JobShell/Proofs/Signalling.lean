import JobShell.Proofs.LineEffects
import JobShell.Proofs.Numerals

/-!
# Signalling

A control command sends its signal to the one process that its argument names, once what is expected
of that process has been written down, and sends none if the argument names no process. Nothing else
that a line can ask for sends a signal. Main statement: `control_signals`.
-/

namespace JobShell

/-! ## Numbers of processes -/

namespace Pid

/-- `s` names the process with the number `n`: it is a numeral, perhaps behind a plus sign, and its
value is not zero and fits in 31 bits. -/
structure Names (s : String) (n : Nat) : Prop where
  numeral : ∃ digits, Numeral digits n ∧ (s.toList = digits ∨ s.toList = '+' :: digits)
  pos : 1 ≤ n
  le : n ≤ 2147483647

/-- A text is read as a numeral once the plus sign in front, if there is one, has been taken off. -/
theorem exists_ofText?_eq (s : String) :
    ∃ digits, (s.toList = '+' :: digits ∨ s.toList = digits ∧ ∀ cs, digits ≠ '+' :: cs) ∧
      ofText? s = (digits? digits).bind fun n =>
        if 1 ≤ (n : Int) ∧ (n : Int) ≤ max then some ⟨n⟩ else none := by
  unfold ofText?
  dsimp only
  split
  next n hn =>
    split at hn
    next cs hcs => exact ⟨cs, .inl hcs, by rw [hn]; rfl⟩
    next hplus => exact ⟨_, .inr ⟨rfl, hplus⟩, by rw [hn]; rfl⟩
  next hn =>
    split at hn
    next cs hcs => exact ⟨cs, .inl hcs, by rw [hn]; rfl⟩
    next hplus => exact ⟨_, .inr ⟨rfl, hplus⟩, by rw [hn]; rfl⟩

theorem ofText?_eq_some_iff {s : String} {p : Pid} :
    ofText? s = some p ↔ ∃ n : Nat, Names s n ∧ p = ⟨n⟩ := by
  obtain ⟨digits, hdigits, hread⟩ := exists_ofText?_eq s
  have hrange : ∀ n : Nat, (1 ≤ (n : Int) ∧ (n : Int) ≤ max) ↔ 1 ≤ n ∧ n ≤ 2147483647 := by
    intro n
    rw [max]
    omega
  -- A text holds one numeral at most, since a plus sign is no digit.
  have hnumeral : ∀ n, (∃ ds, Numeral ds n ∧ (s.toList = ds ∨ s.toList = '+' :: ds)) ↔
      Numeral digits n := by
    intro n
    constructor
    · rintro ⟨ds, hds, hs⟩
      rcases hdigits with hplus | ⟨rfl, hnot⟩
      · rcases hs with hs | hs
        · exact absurd (hs.symm.trans hplus) (hds.ne_cons rfl _)
        · have heq := hplus.symm.trans hs
          cases heq
          exact hds
      · rcases hs with rfl | hs
        · exact hds
        · exact absurd hs (hnot ds)
    · intro h
      exact ⟨digits, h, hdigits.symm.imp And.left id⟩
  rw [hread, Option.bind_eq_some_iff]
  simp only [digits?_eq_some_iff, Option.ite_none_right_eq_some, hrange, Option.some.injEq]
  constructor
  · rintro ⟨n, hn, ⟨hpos, hle⟩, rfl⟩
    exact ⟨n, ⟨(hnumeral n).2 hn, hpos, hle⟩, rfl⟩
  · rintro ⟨n, ⟨hn, hpos, hle⟩, rfl⟩
    exact ⟨n, (hnumeral n).1 hn, ⟨hpos, hle⟩, rfl⟩

theorem ofText?_eq_none_iff {s : String} : ofText? s = none ↔ ∀ n, ¬ Names s n := by
  rw [Option.eq_none_iff_forall_not_mem]
  constructor
  · exact fun h n hn => h ⟨n⟩ (ofText?_eq_some_iff.2 ⟨n, hn, rfl⟩)
  · intro h p hp
    obtain ⟨n, hn, -⟩ := ofText?_eq_some_iff.1 hp
    exact h n hn

end Pid

/-! ## Keywords -/

namespace Control

/-- What a keyword stands for: a signal, and the status that is expected once it is sent. -/
inductive Stands : String → Signal → Status → Prop where
  | halt : Stands "halt" .stop .suspended
  | wakeup : Stands "wakeup" .cont .running
  | ice : Stands "ice" .int .terminated

theorem stands_iff {keyword : String} {signal : Signal} {status : Status} :
    Stands keyword signal status ↔
      ∃ control, Builtin.ofName? keyword = some (.control control) ∧ control.signal = signal ∧
        control.predicted = status := by
  constructor
  · intro h
    cases h with
    | halt => exact ⟨.halt, rfl, rfl, rfl⟩
    | wakeup => exact ⟨.wakeup, rfl, rfl, rfl⟩
    | ice => exact ⟨.ice, rfl, rfl, rfl⟩
  · rintro ⟨control, hkeyword, rfl, rfl⟩
    rw [Builtin.ofName?_eq_some_iff.1 hkeyword]
    cases control with
    | halt => exact .halt
    | wakeup => exact .wakeup
    | ice => exact .ice

end Control

/-! ## Predictions -/

/-- A table in which a status is expected of a process: it is written on the newest record with the
number of the process, and nowhere if there is none. -/
inductive Table.Marks (t : Table) (pid : Pid) (status : Status) : Table → Prop where
  | newest {before after : List Record} {r : Record} (split : t.records = before ++ r :: after)
      (found : r.pid = pid) (newer : ∀ r' ∈ before, r'.pid ≠ pid) :
      Marks t pid status ⟨before ++ { r with predicted := some status } :: after⟩
  | untracked (none : ∀ r ∈ t.records, r.pid ≠ pid) : Marks t pid status t

/-- There is one way of marking a table. -/
theorem Table.Marks.eq_predict {t t' : Table} {pid : Pid} {status : Status}
    (h : t.Marks pid status t') : t' = t.predict pid status := by
  cases h with
  | newest split found newer =>
    subst found
    rw [predict, split, updateFirst_append_cons newer]
  | untracked none =>
    refine (predict_of_tracks_eq_false status ?_).symm
    rw [Bool.eq_false_iff, Ne, tracks_iff]
    simpa using none

theorem Table.marks_predict (t : Table) (pid : Pid) (status : Status) :
    t.Marks pid status (t.predict pid status) := by
  rcases hfound : t.get? pid with _ | r
  · have hnone : t.tracks pid = false := by rw [tracks, hfound]; rfl
    rw [predict_of_tracks_eq_false status hnone]
    exact .untracked (by simpa [get?] using hfound)
  · obtain ⟨hpid, before, after, hsplit, hnewer⟩ := List.find?_eq_some_iff_append.1 hfound
    have hpid : r.pid = pid := of_decide_eq_true hpid
    have hnewer : ∀ r' ∈ before, r'.pid ≠ pid := by simpa using hnewer
    subst hpid
    rw [predict, hsplit, updateFirst_append_cons hnewer]
    exact .newest hsplit rfl hnewer

/-! ## Signals -/

/-- The signal that is to be sent, and to which process. -/
def Exchange.kill? : Exchange → Option (Pid × Signal)
  | ⟨.kill pid signal, _⟩ => some (pid, signal)
  | _ => none

namespace Trace

/-- The signals that are to be sent, in order, whether they can be or not. -/
def kills (t : Trace) : List (Pid × Signal) := t.filterMap Exchange.kill?

@[simp] theorem kills_append (t u : Trace) : kills (t ++ u) = kills t ++ kills u :=
  List.filterMap_append

end Trace

/-- The ways of sending the signal of a control command: what is said to the system, and what comes
of it. -/
inductive Delivery (pid : Pid) (control : Control) (tracked : Bool) :
    Trace → Except Failure Flow → Prop where
  | sent : Delivery pid control tracked
      [⟨.log (.sending pid control tracked), ()⟩, ⟨.kill pid control.signal, .ok ()⟩] (.ok .proceed)
  | unsent (e : Errno) : Delivery pid control tracked
      [⟨.log (.sending pid control tracked), ()⟩, ⟨.kill pid control.signal, .error e⟩,
        ⟨.log (.undelivered pid control.signal e), ()⟩] (.error (.error (.kill e)))

theorem Delivery.kills_eq {pid : Pid} {control : Control} {tracked : Bool} {t : Trace}
    {r : Except Failure Flow} (h : Delivery pid control tracked t r) :
    t.kills = [(pid, control.signal)] := by
  cases h <;> rfl

namespace Program

variable {α : Type}

/-- A system that answers takes every program to its end. -/
theorem exists_runs (p : Program α) : ∃ t a, p.Runs t a := by
  have hanswer : ∀ c : Call, Nonempty c.Answer := by
    intro c
    cases c <;> first | exact ⟨()⟩ | exact ⟨none⟩ | exact ⟨.error .invalid⟩
  obtain ⟨t, a, h, -⟩ := p.exists_answered fun _ c => (hanswer c).some
  exact ⟨t, a, h⟩

/-- What has been said so far is the beginning of what is said in the end. -/
theorem Leads.exists_runs {p q : Program α} {t : Trace} (h : p.Leads t q) :
    ∃ u a, p.Runs (t ++ u) a := by
  induction h with
  | refl p => exact p.exists_runs
  | call answer rest ih =>
    obtain ⟨u, a, hu⟩ := ih
    exact ⟨u, a, .call answer hu⟩

end Program

namespace Shell

variable {settings : Settings} {s s' : Session} {t : Trace} {r : Except Failure Flow}
  {raw text : String}

/-! ## Control commands -/

/-- Sends the signal of a control command. -/
def deliver (pid : Pid) (control : Control) (tracked : Bool) : Shell Flow := do
  log (.sending pid control tracked)
  match ← ask (.kill pid control.signal) with
  | .ok () => return .proceed
  | .error e =>
    log (.undelivered pid control.signal e)
    fail (.kill e)

/-- Sending a signal changes nothing in the session. -/
theorem runs_deliver {pid : Pid} {control : Control} {tracked : Bool} :
    Runs (deliver pid control tracked) s t r s' ↔ Delivery pid control tracked t r ∧ s' = s := by
  constructor
  · intro h
    obtain ⟨u, rfl, hu⟩ := runs_log_bind.1 h
    obtain ⟨answer, v, rfl, hv⟩ := runs_ask_bind.1 hu
    rcases answer with e | _
    · obtain ⟨w, rfl, hw⟩ := runs_log_bind.1 hv
      obtain ⟨rfl, rfl, rfl⟩ := runs_fail.1 hw
      exact ⟨.unsent e, rfl⟩
    · obtain ⟨rfl, rfl, rfl⟩ := runs_pure.1 hv
      exact ⟨.sent, rfl⟩
  · rintro ⟨h, rfl⟩
    cases h with
    | sent => exact .call _ (.call _ (.done _))
    | unsent e => exact .call _ (.call _ (.call _ (.done _)))

theorem actOnProcess_invalid (control : Control) (name : String) {arg : String}
    (rest : List String) (h : Pid.ofText? arg = none) :
    actOnProcess control (name :: arg :: rest) = fail (.invalidPid name arg) := by
  rw [actOnProcess, argument, pure_bind, h]
  rfl

theorem actOnProcess_named (control : Control) (name : String) {arg : String}
    (rest : List String) {pid : Pid} (h : Pid.ofText? arg = some pid) :
    actOnProcess control (name :: arg :: rest) = dispatch pid control := by
  rw [actOnProcess, argument, pure_bind, h]

section

variable (settings : Settings) (s : Session) (control : Control) (name : String)

theorem run_control_missing :
    ((runBuiltin settings (.control control) [name]).run s : Program _) =
      .done (.error (.error (.missingArgument name)), s) := rfl

theorem run_control_invalid {arg : String} (rest : List String) (h : Pid.ofText? arg = none) :
    ((runBuiltin settings (.control control) (name :: arg :: rest)).run s : Program _) =
      .done (.error (.error (.invalidPid name arg)), s) := by
  rw [runBuiltin, actOnProcess_invalid control name rest h]
  rfl

/-- The prediction is written down before anything is said to the system. -/
theorem run_control_named {arg : String} (rest : List String) {pid : Pid}
    (h : Pid.ofText? arg = some pid) :
    ((runBuiltin settings (.control control) (name :: arg :: rest)).run s : Program _) =
      (deliver pid control (s.table.tracks pid)).run
        { s with table := s.table.predict pid control.predicted } := by
  rw [runBuiltin, actOnProcess_named control name rest h]
  -- Both make the same two calls, and what comes then depends on the answer to the second.
  refine congrArg (Program.call _) (funext fun _ => ?_)
  refine congrArg (Program.call _) (funext fun answer => ?_)
  rcases answer with e | _ <;> rfl

end

/-- A control command sends a signal if its argument names a process, and otherwise none. -/
theorem kills_control {control : Control} {name : String} {arguments : List String}
    (h : Runs (runBuiltin settings (.control control) (name :: arguments)) s t r s') :
    (t.kills = [] ∧ ∀ arg n, arguments.head? = some arg → ¬ Pid.Names arg n) ∨
      ∃ arg n, arguments.head? = some arg ∧ Pid.Names arg n ∧
        t.kills = [(⟨n⟩, control.signal)] := by
  rcases arguments with _ | ⟨arg, rest⟩
  · rw [Runs, run_control_missing, Program.runs_done] at h
    obtain ⟨rfl, -⟩ := h
    refine .inl ⟨rfl, ?_⟩
    rintro _ _ ⟨⟩
  rcases hpid : Pid.ofText? arg with _ | pid
  · rw [Runs, run_control_invalid settings s control name rest hpid, Program.runs_done] at h
    obtain ⟨rfl, -⟩ := h
    refine .inl ⟨rfl, ?_⟩
    rintro _ n ⟨⟩
    exact Pid.ofText?_eq_none_iff.1 hpid n
  · rw [Runs, run_control_named settings s control name rest hpid] at h
    obtain ⟨n, hn, rfl⟩ := Pid.ofText?_eq_some_iff.1 hpid
    exact .inr ⟨arg, n, rfl, hn, (runs_deliver.1 h).1.kills_eq⟩

/-! ## Other commands -/

/-- No signal is sent. -/
def peaceful : Effect where
  Allows _ t _ := t.kills = []
  refl _ := rfl
  trans ht hu := by rw [Trace.kills_append, ht, hu, List.append_nil]

theorem peaceful_inquiry (c : Call) (h : c.isInquiry) (s : Session) (answer : c.Answer) :
    peaceful.Allows s [⟨c, answer⟩] s := by
  cases c <;> first | rfl | cases h

theorem peaceful_writeAll (pieces : List String) :
    Confined peaceful (fun _ => True) (writeAll pieces) := by
  refine .forM (fun piece => .bind (.ask fun _ _ => rfl) fun answer => ?_) pieces
  rcases answer with e | _
  · exact .fail trivial
  · exact .pure _

theorem peaceful_changeDirectory (arguments : List String) :
    Confined peaceful (fun _ => True) (changeDirectory arguments) := by
  have hargument : Confined peaceful (Failure.IsOfBuiltin .cd arguments) (argument arguments) :=
    confined_argument arguments
  refine .bind (hargument.mono id fun _ _ => trivial) fun path => ?_
  split
  · exact .fail trivial
  · refine .bind (.ask fun _ _ => rfl) fun answer => ?_
    rcases answer with e | _
    · exact .fail trivial
    · exact .pure _

theorem peaceful_listProcesses : Confined peaceful (fun _ => True) (listProcesses settings) := by
  refine .bind (.bind .get fun s => ?_) fun _ => peaceful_writeAll _
  refine .bind (.bind (confined_refresh peaceful_inquiry trivial settings _) fun _ => .pure _) ?_
  rintro ⟨entries, table⟩
  refine .bind (confined_logDead peaceful_inquiry entries) fun _ => ?_
  exact .bind (.modifyTable fun _ => rfl) fun _ => .pure _

theorem kills_runBuiltin {builtin : Builtin} {arguments : List String}
    (hbuiltin : ∀ control, builtin ≠ .control control)
    (h : Runs (runBuiltin settings builtin arguments) s t r s') : t.kills = [] := by
  have hpeaceful : Confined peaceful (fun _ => True) (runBuiltin settings builtin arguments) := by
    cases builtin with
    | cd => exact .bind (peaceful_changeDirectory arguments) fun _ => .pure _
    | procs => exact .bind peaceful_listProcesses fun _ => .pure _
    | hist => exact .bind (.bind .get fun _ => peaceful_writeAll _) fun _ => .pure _
    | control control => exact absurd rfl (hbuiltin control)
    | quit =>
      refine ⟨fun _ _ _ _ h => ?_, fun _ _ _ _ _ => trivial⟩
      obtain ⟨rfl, -⟩ := runs_quit.1 h
      rfl
  exact hpeaceful.within h

/-! ## Launching -/

theorem peaceful_spawn (stage : Stage) (role : Role) (pipe : Option Pipe) :
    Confined peaceful (fun _ => True) (spawn settings stage role pipe) := by
  refine .bind (.ask fun _ _ => rfl) fun answer => ?_
  rcases answer with e | pid
  · exact .pure _
  · have hentered : Confined peaceful (fun _ => True) (do
        log (.spawned pid (.single stage) role)
        track pid (.single stage)
        return (.ok pid : Except Errno Pid)) :=
      .bind (.ask fun _ _ => rfl) fun _ =>
        .bind (.bind (.ask fun _ _ => rfl) fun _ => .modifyTable fun _ => rfl) fun _ => .pure _
    dsimp only
    split
    · exact .bind (.ask fun _ _ => rfl) fun _ => .bind (.ask fun _ _ => rfl) fun _ => hentered
    · exact hentered

theorem peaceful_spawnPair (first second : Stage) (pipe : Pipe) :
    Confined peaceful (fun _ => True) (spawnPair settings first second pipe) := by
  refine .bind (peaceful_spawn first _ _) fun answer => ?_
  rcases answer with e | writer
  · exact .bind (.ask fun _ _ => rfl) fun _ => .pure _
  · refine .bind (peaceful_spawn second _ _) fun answer => ?_
    rcases answer with e | reader
    · exact .bind (.ask fun _ _ => rfl) fun _ => .pure _
    · exact .bind (.ask fun _ _ => rfl) fun _ => .pure _

theorem peaceful_spawnStages (command : Command) :
    Confined peaceful (fun _ => True) (spawnStages settings command) := by
  rw [spawnStages]
  split
  · refine .bind (peaceful_spawn _ _ _) fun answer => ?_
    rcases answer with e | pid
    · exact .fail trivial
    · exact .pure _
  · refine .bind (.ask fun _ _ => rfl) fun answer => ?_
    rcases answer with e | pipe
    · exact .fail trivial
    · refine .bind (peaceful_spawnPair _ _ pipe) fun answer => ?_
      rcases answer with e | pids
      · exact .fail trivial
      · exact .pure _

theorem peaceful_launch (command : Command) :
    Confined peaceful (fun _ => True) (launch settings command) := by
  rw [launch]
  split
  · exact .fail trivial
  · refine .bind (peaceful_spawnStages command) fun pids => ?_
    dsimp only
    split
    · refine .bind ?_ fun _ => .pure _
      exact confined_awaitAll peaceful_inquiry trivial settings (fun _ _ _ => rfl) pids
    · exact .pure _

/-! ## Lines -/

/-- The control command on a line tells the shell to send a process a signal. -/
inductive Told (text : String) : Pid → Signal → Prop where
  | intro {command : Command} {control : Control} {arg : String} {n : Nat}
      (parsed : Command.parse text = .ok (some command))
      (asked : builtin? command = some (.control control))
      (target : command.first.arguments[1]? = some arg) (names : Pid.Names arg n) :
      Told text ⟨n⟩ control.signal

/-- No signal goes to a group of processes, or to all of them. -/
theorem Told.range {pid : Pid} {signal : Signal} (h : Told text pid signal) :
    1 ≤ pid.number ∧ pid.number ≤ 2147483647 := by
  cases h with
  | @intro _ _ _ n _ _ _ names =>
    have hpos := names.pos
    have hle := names.le
    show 1 ≤ (n : Int) ∧ (n : Int) ≤ 2147483647
    omega

theorem Handled.kills_cases (h : Handled settings s text t r s') :
    t.kills = [] ∨ ∃ pid signal, t.kills = [(pid, signal)] ∧ Told text pid signal := by
  cases h with
  | unreadable | empty | unflushed | refused => exact .inl rfl
  | @builtin command builtin _ _ _ parsed asked runs =>
    by_cases hcontrol : ∃ control, builtin = .control control
    · obtain ⟨control, rfl⟩ := hcontrol
      have hne := (Command.wellFormed_of_parse parsed).first.arguments_ne_nil
      obtain ⟨name, arguments, harguments⟩ := List.exists_cons_of_ne_nil hne
      rw [harguments] at runs
      rcases kills_control runs with ⟨hnone, -⟩ | ⟨arg, n, harg, hn, hkills⟩
      · exact .inl hnone
      · refine .inr ⟨_, _, hkills, .intro parsed asked ?_ hn⟩
        rw [harguments, List.getElem?_cons_succ, ← List.head?_eq_getElem?, harg]
    · exact .inl (kills_runBuiltin (fun control heq => hcontrol ⟨control, heq⟩) runs)
  | @launched command u pids _ parsed asked checked runs =>
    refine .inl ?_
    have hlogged : Trace.kills (⟨.flush, .ok ()⟩ :: u ++ [⟨.log (.launched pids), ()⟩]) =
        u.kills ++ [] := Trace.kills_append u _
    rw [hlogged, List.append_nil]
    exact (peaceful_launch command).within runs
  | @unlaunched command u e _ parsed asked checked runs =>
    have hnone : u.kills = [] := (peaceful_launch command).within runs
    exact .inl hnone

/-- A line sends one signal at most. -/
theorem kills_processLine (h : Runs (processLine settings raw) s t r s') :
    t.kills = [] ∨ ∃ text pid signal, recorded? s.history raw = some text ∧
      t.kills = [(pid, signal)] ∧ Told text pid signal := by
  rcases runs_processLine_cases h with ⟨-, rfl, -, -⟩ | ⟨text, hrecorded, hhandled⟩
  · exact .inl rfl
  · rcases hhandled.kills_cases with hnone | ⟨pid, signal, hkills, htold⟩
    · exact .inl hnone
    · exact .inr ⟨text, pid, signal, hrecorded, hkills, htold⟩

/-- What is true of the signals of each line is true of those of any number of lines. -/
theorem Processes.kills_range (hrun : Processes settings s t s') :
    ∀ k ∈ t.kills, 1 ≤ k.1.number ∧ k.1.number ≤ 2147483647 := by
  induction hrun with
  | nil => exact List.forall_mem_nil _
  | snoc raw before line ends ih =>
    rw [Trace.kills_append, List.forall_mem_append]
    refine ⟨ih, ?_⟩
    rcases kills_processLine line with hnone | ⟨text, pid, signal, -, hkills, htold⟩
    · rw [hnone]
      exact List.forall_mem_nil _
    · rw [hkills]
      exact List.forall_mem_singleton.2 htold.range

/-- A line that is still being processed has sent no other signals than it will have sent in the
end. -/
theorem kills_range_of_leads {u : Trace} {rest : Program (Except Failure Flow × Session)}
    (hline : Program.Leads ((processLine settings raw).run s : Program _) u rest) :
    ∀ k ∈ u.kills, 1 ≤ k.1.number ∧ k.1.number ≤ 2147483647 := by
  obtain ⟨v, ⟨r, s'⟩, hruns⟩ := hline.exists_runs
  intro k hk
  have hmem : k ∈ (u ++ v).kills := by
    rw [Trace.kills_append]
    exact List.mem_append_left _ hk
  rcases kills_processLine hruns with hnone | ⟨text, pid, signal, -, hkills, htold⟩
  · rw [hnone] at hmem
    cases hmem
  · rw [hkills] at hmem
    rw [List.mem_singleton.1 hmem]
    exact htold.range

/-- What comes of a control command that is called by `name` and given `arguments`. -/
structure Controls (settings : Settings) (s : Session) (control : Control) (name : String)
    (arguments : List String) : Prop where
  /-- Without an argument nothing is done. -/
  missing : arguments = [] →
    ((runBuiltin settings (.control control) (name :: arguments)).run s : Program _) =
      .done (.error (.error (.missingArgument name)), s)
  /-- Nor is anything done if the argument names no process. -/
  invalid : ∀ arg, arguments.head? = some arg → (∀ n, ¬ Pid.Names arg n) →
    ((runBuiltin settings (.control control) (name :: arguments)).run s : Program _) =
      .done (.error (.error (.invalidPid name arg)), s)
  /-- If it names one, then what is expected of it is written on its newest record. In the session
  that this makes one signal is sent, which may fail, and nothing else changes. -/
  delivers : ∀ arg n, arguments.head? = some arg → Pid.Names arg n →
    ∃ table, s.table.Marks ⟨n⟩ control.predicted table ∧
      ((runBuiltin settings (.control control) (name :: arguments)).run s : Program _) =
        (deliver ⟨n⟩ control (s.table.tracks ⟨n⟩)).run { s with table := table } ∧
      ∀ t r s', Runs (deliver ⟨n⟩ control (s.table.tracks ⟨n⟩)) { s with table := table } t r s' ↔
        Delivery ⟨n⟩ control (s.table.tracks ⟨n⟩) t r ∧ s' = { s with table := table }
  /-- So it depends on the argument alone whether a signal is sent. -/
  attempted : ∀ t r s',
    Runs (runBuiltin settings (.control control) (name :: arguments)) s t r s' →
      (t.kills ≠ [] ↔ ∃ arg n, arguments.head? = some arg ∧ Pid.Names arg n)

theorem controls (settings : Settings) (s : Session) (control : Control) (name : String)
    (arguments : List String) : Controls settings s control name arguments where
  missing h := by
    subst h
    exact run_control_missing settings s control name
  invalid arg harg hinvalid := by
    obtain ⟨rest, rfl⟩ := List.head?_eq_some_iff.1 harg
    exact run_control_invalid settings s control name rest (Pid.ofText?_eq_none_iff.2 hinvalid)
  delivers arg n harg hn := by
    obtain ⟨rest, rfl⟩ := List.head?_eq_some_iff.1 harg
    have hpid : Pid.ofText? arg = some ⟨n⟩ := Pid.ofText?_eq_some_iff.2 ⟨n, hn, rfl⟩
    exact ⟨_, s.table.marks_predict ⟨n⟩ control.predicted,
      run_control_named settings s control name rest hpid, fun _ _ _ => runs_deliver⟩
  attempted t r s' h := by
    rcases kills_control h with ⟨hnone, hinvalid⟩ | ⟨arg, n, harg, hn, hkills⟩
    · refine iff_of_false (fun hne => hne hnone) ?_
      rintro ⟨arg, n, harg, hn⟩
      exact hinvalid arg n harg hn
    · refine iff_of_true ?_ ⟨arg, n, harg, hn⟩
      rw [hkills]
      exact List.cons_ne_nil _ _

/-- The keyword of a control command decides over its signal, which it sends to the process that its
argument names, or it does nothing. Each signal of a line is one that the control command on it was
told to send, so that none of the lines of a run, be they done or not, signals anything but a single
process. -/
theorem control_signals (settings : Settings) (s : Session) :
    (∀ keyword signal status, Control.Stands keyword signal status ↔
      ∃ control, Builtin.ofName? keyword = some (.control control) ∧ control.signal = signal ∧
        control.predicted = status) ∧
      (∀ control name arguments, Controls settings s control name arguments) ∧
      (∀ raw t r s', Runs (processLine settings raw) s t r s' → t.kills = [] ∨
        ∃ text pid signal, recorded? s.history raw = some text ∧ t.kills = [(pid, signal)] ∧
          Told text pid signal) ∧
      ∀ t s' raw u rest, Processes settings s t s' →
        Program.Leads ((processLine settings raw).run s' : Program _) u rest →
          ∀ pid signal, (pid, signal) ∈ (t ++ u).kills →
            1 ≤ pid.number ∧ pid.number ≤ 2147483647 := by
  refine ⟨fun _ _ _ => Control.stands_iff, controls settings s,
    fun raw t r s' => kills_processLine, ?_⟩
  intro t s' raw u rest hrun hline pid signal hmem
  rw [Trace.kills_append] at hmem
  rcases List.mem_append.1 hmem with hmem | hmem
  · exact hrun.kills_range _ hmem
  · exact kills_range_of_leads hline _ hmem

/-- Two records have the number 7, and the command to interrupt this process is about the newer
one. -/
theorem control_signals_recycled :
    Pid.Names "+007" 7 ∧ (∀ n, ¬ Pid.Names "-7" n) ∧
      ((runBuiltin Recycled.silent (.control .ice) ["ice", "-7"]).run Recycled.session :
        Program _) = .done (.error (.error (.invalidPid "ice" "-7")), Recycled.session) ∧
      ((runBuiltin Recycled.silent (.control .ice) ["ice", "+007"]).run Recycled.session :
        Program _) =
        (deliver ⟨7⟩ .ice true).run
          ⟨⟨[{ Recycled.new with predicted := some .terminated }, Recycled.old]⟩,
            Recycled.session.history⟩ ∧
      ∀ t r s', Runs (runBuiltin Recycled.silent (.control .ice) ["ice", "+007"]) Recycled.session
        t r s' → t.kills = [(⟨7⟩, .int)] := by
  have hnames : Pid.Names "+007" 7 := by
    obtain ⟨n, hn, heq⟩ := Pid.ofText?_eq_some_iff.1 (show Pid.ofText? "+007" = some ⟨7⟩ by decide)
    cases heq
    exact hn
  have hinvalid : ∀ n, ¬ Pid.Names "-7" n := Pid.ofText?_eq_none_iff.1 (by decide)
  have hcontrols := (control_signals Recycled.silent Recycled.session).2.1 .ice "ice"
  obtain ⟨table, hmarks, hprogram, hdelivery⟩ :=
    (hcontrols ["+007"]).delivers "+007" 7 rfl hnames
  have hkills : ∀ t r s', Runs (runBuiltin Recycled.silent (.control .ice) ["ice", "+007"])
      Recycled.session t r s' → t.kills = [(⟨7⟩, .int)] := by
    intro t r s' h
    rw [Runs, hprogram] at h
    exact ((hdelivery t r s').1 h).1.kills_eq
  obtain rfl := hmarks.eq_predict
  exact ⟨hnames, hinvalid, (hcontrols ["-7"]).invalid "-7" rfl hinvalid, hprogram, hkills⟩

end Shell

end JobShell
