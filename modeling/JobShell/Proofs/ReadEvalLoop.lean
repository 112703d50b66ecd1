import JobShell.App
import JobShell.Proofs.Patience

/-!
# The read-eval loop

The loop goes from reading to reading until one of them, or the end of the input, is its last.
`Turn` is what happens at a reading after which the loop goes on, `Ends` what happens at the last
one, and `runs_loop_iff` says that the loop does nothing else, unless it waits at a line until its
patience is over (`Waits`). What a line can come to is in `GoesOn` and `Stops`; they also say what is
true of it then.

The program is the loop with the log and the exit code around it. How patient its shell is has no
part in how the program ends, but only in whether it has ended by then.
-/

namespace JobShell

/-! ## The ends of the loop -/

/-- Why the loop ends. -/
inductive Reason where
  /-- A line has told the shell to quit. -/
  | quit
  | endOfInput
  | disaster (cause : Disaster)

/-- What the loop returns. -/
def Reason.ending : Reason → Ending
  | quit | endOfInput => .ok ()
  | disaster cause => .error cause

namespace Ending

/-- What the loop does at its end. -/
def farewell : Ending → Trace
  | .ok () => [⟨.log .leaving, ()⟩]
  | .error _ => []

/-- What the program says at its end. -/
def lastWords : Ending → Trace
  | .ok () => []
  | .error cause => [⟨.complain (App.name ++ ": " ++ cause.message), ()⟩]

/-- The exit code of the program. -/
def code : Ending → Nat
  | .ok () => App.success
  | .error _ => App.failure

theorem code_eq_success_iff (ending : Ending) : ending.code = App.success ↔ ending = .ok () := by
  rcases ending with cause | _ <;> simp [code, App.success, App.failure]

theorem code_eq_failure_iff (ending : Ending) :
    ending.code = App.failure ↔ ∃ cause, ending = .error cause := by
  rcases ending with cause | _ <;> simp [code, App.success, App.failure]

end Ending

namespace Reason

theorem ending_eq_ok_iff (reason : Reason) :
    reason.ending = .ok () ↔ reason = .quit ∨ reason = .endOfInput := by
  cases reason <;> simp [ending]

theorem ending_eq_error_iff (reason : Reason) (cause : Disaster) :
    reason.ending = .error cause ↔ reason = .disaster cause := by
  cases reason <;> simp [ending]

end Reason

namespace Shell

/-! ## Lines -/

variable {settings : Settings} {s s₁ s' : Session} {t u : Trace} {text : String}
  {q : Except Failure Flow}

/-- What a line came to if the loop goes on, and what the loop says about it then: nothing, or the
error, which nobody has spoken of yet. The system has refused neither a pipe nor a process. -/
inductive GoesOn (u : Trace) : Except Failure Flow → Trace → Prop where
  | proceed (granted : u.refusals = []) : GoesOn u (.ok .proceed) []
  | error {e : ShellError} (bearable : e.isFatal = false) (granted : u.refusals = [])
      (silent : ∀ line, (⟨.complain line, ()⟩ : Exchange) ∉ u) :
      GoesOn u (.error (.error e)) [⟨.complain e.message, ()⟩]

/-- What a line came to if the loop ends with it, in the session `s'`. -/
inductive Stops (u : Trace) (s' : Session) : Except Failure Flow → Reason → Prop where
  /-- The line told the shell to quit, and nothing is left. -/
  | quit (granted : u.refusals = []) (noProcess : s'.table = .empty)
      (noLine : s'.history.lines = []) : Stops u s' (.ok .quit) .quit
  /-- The system refused a pipe or a process. -/
  | fatal {cause : LaunchError} (fatal : cause.isFatal) (refused : cause ∈ u.refusals) :
      Stops u s' (.error (.error (.launch cause))) (.disaster (.fatal (.launch cause)))

/-- Nothing is said on standard error before an error that does not end the shell. -/
theorem Handled.silent {e : ShellError} (h : Handled settings s text t (.error (.error e)) s')
    (he : e.isFatal = false) (line : String) : (⟨.complain line, ()⟩ : Exchange) ∉ t := by
  -- The result is an index of `Handled`, which only a variable can be.
  generalize hr : (.error (.error e) : Except Failure Flow) = r at h
  cases h with
  | unreadable | empty => exact List.not_mem_nil
  | builtin parsed asked runs =>
    intro hmem
    have hcall := (runs_runBuiltin_quietly runs).1 _ hmem
    cases hcall
  | unflushed | refused => simp
  | launched => cases hr
  | unlaunched parsed asked checked runs =>
    obtain rfl := Except.error.inj hr
    have hfatal := ((runs_launch checked runs).fatal e rfl).1
    rw [he] at hfatal
    cases hfatal

/-- Either the system has refused nothing and the shell can bear the error, if there is one, or the
error is fatal and names what was refused. -/
theorem Handled.refusals_cases (h : Handled settings s text u q s') :
    (u.refusals = [] ∧ ∀ e, q = .error (.error e) → e.isFatal = false) ∨
      ∃ cause ∈ u.refusals, cause.isFatal ∧ q = .error (.error (.launch cause)) := by
  rcases h.launch_cases with ⟨command, -, -, hlaunched⟩ | hunlaunched
  · rcases hrefusals : u.refusals with _ | ⟨cause, rest⟩
    · refine .inl ⟨rfl, fun e he => ?_⟩
      obtain ⟨-, cause, rfl⟩ := hlaunched.fatal e he
      have hmem := (hlaunched.refused cause).2 he
      rw [hrefusals] at hmem
      cases hmem
    · have hmem : cause ∈ u.refusals := hrefusals ▸ List.mem_cons_self
      have hq := (hlaunched.refused cause).1 hmem
      exact .inr ⟨cause, List.mem_cons_self, (hlaunched.fatal _ hq).1, hq⟩
  · exact .inl ⟨(Trace.births_refusals_of_forall hunlaunched.calls).2, hunlaunched.bearable⟩

theorem Handled.sturdy (h : Handled settings s text u q s') : q ≠ .error .crash := by
  rcases h.launch_cases with ⟨command, -, -, hlaunched⟩ | hunlaunched
  · exact hlaunched.sturdy
  · exact hunlaunched.sturdy

/-- The loop goes on after a line, or ends with it, or the line is not done: the shell never breaks
down at one. -/
theorem runs_processLine_ways (h : Runs (processLine settings text) s u q s') :
    (∃ report, GoesOn u q report) ∨ (∃ reason, Stops u s' q reason) ∨ q = .error .stuck := by
  rcases runs_processLine_cases h with ⟨-, rfl, rfl, rfl | rfl | rfl⟩ | ⟨recorded, -, hhandled⟩
  · exact .inl ⟨_, .proceed rfl⟩
  · exact .inl ⟨_, .error rfl rfl fun _ => List.not_mem_nil⟩
  · exact .inl ⟨_, .error rfl rfl fun _ => List.not_mem_nil⟩
  -- What the system refused decides over an error, the history over the command to quit.
  rcases hhandled.refusals_cases with ⟨hgranted, hbearable⟩ | ⟨cause, hrefused, hfatal, rfl⟩
  · rcases q with (e | _ | _) | (_ | _)
    · exact .inl ⟨_, .error (hbearable e rfl) hgranted (hhandled.silent (hbearable e rfl))⟩
    · exact absurd rfl hhandled.sturdy
    · exact .inr (.inr rfl)
    · exact .inl ⟨_, .proceed hgranted⟩
    · rcases hhandled.history_cases with ⟨-, -, -, rfl⟩ | ⟨-, hquit, -⟩
      · exact .inr (.inl ⟨_, .quit hgranted rfl rfl⟩)
      · exact absurd rfl hquit
  · exact .inr (.inl ⟨_, .fatal hfatal hrefused⟩)

/-- What the loop says about the result of a line, and what it makes of it. -/
inductive Answers : Except Failure Flow → Trace → Except Failure (Option Ending) → Prop where
  | proceed : Answers (.ok .proceed) [] (.ok none)
  | quit : Answers (.ok .quit) [] (.ok (some (.ok ())))
  | bearable {e : ShellError} (bearable : e.isFatal = false) :
      Answers (.error (.error e)) [⟨.complain e.message, ()⟩] (.ok none)
  | fatal {e : ShellError} (fatal : e.isFatal) :
      Answers (.error (.error e)) [] (.ok (some (.error (.fatal e))))
  | crash : Answers (.error .crash) [] (.error .crash)
  | stuck : Answers (.error .stuck) [] (.error .stuck)

theorem runs_processReading_iff {r : Except Failure (Option Ending)} :
    Runs (processReading settings text) s t r s' ↔
      ∃ q u v, t = u ++ v ∧ Runs (processLine settings text) s u q s' ∧ Answers q v r := by
  rw [processReading, runs_try fun flow => by cases flow <;> exact ⟨_, rfl⟩]
  constructor
  · rintro (⟨flow, s₁, u, v, rfl, hu, hv⟩ | ⟨e, s₁, u, v, rfl, hu, hv⟩)
    · cases flow with
      | proceed =>
        obtain ⟨rfl, rfl, rfl⟩ := runs_pure.1 hv
        exact ⟨_, u, [], rfl, hu, .proceed⟩
      | quit =>
        obtain ⟨rfl, rfl, rfl⟩ := runs_pure.1 hv
        exact ⟨_, u, [], rfl, hu, .quit⟩
    · cases e with
      | error e =>
        rcases hfatal : e.isFatal with _ | _
        · dsimp only at hv
          rw [hfatal, if_neg nofun, complain, bind_assoc] at hv
          obtain ⟨_, w, rfl, hw⟩ := runs_ask_bind.1 hv
          obtain ⟨rfl, rfl, rfl⟩ := runs_pure.1 hw
          exact ⟨_, u, _, rfl, hu, .bearable hfatal⟩
        · dsimp only at hv
          rw [hfatal, if_pos rfl] at hv
          obtain ⟨rfl, rfl, rfl⟩ := runs_pure.1 hv
          exact ⟨_, u, [], rfl, hu, .fatal hfatal⟩
      | crash =>
        obtain ⟨rfl, rfl, rfl⟩ := runs_throw.1 hv
        exact ⟨_, u, [], rfl, hu, .crash⟩
      | stuck =>
        obtain ⟨rfl, rfl, rfl⟩ := runs_throw.1 hv
        exact ⟨_, u, [], rfl, hu, .stuck⟩
  · rintro ⟨q, u, v, rfl, hu, hanswers⟩
    cases hanswers with
    | proceed => exact .inl ⟨.proceed, s', u, [], rfl, hu, .done _⟩
    | quit => exact .inl ⟨.quit, s', u, [], rfl, hu, .done _⟩
    | @bearable e hbearable =>
      refine .inr ⟨.error e, s', u, _, rfl, hu, ?_⟩
      dsimp only
      rw [hbearable, if_neg nofun, complain, bind_assoc]
      exact runs_ask_bind.2 ⟨(), [], rfl, .done _⟩
    | @fatal e hfatal =>
      refine .inr ⟨.error e, s', u, _, rfl, hu, ?_⟩
      dsimp only
      rw [if_pos hfatal]
      exact .done _
    | crash => exact .inr ⟨.crash, s', u, [], rfl, hu, .done _⟩
    | stuck => exact .inr ⟨.stuck, s', u, [], rfl, hu, .done _⟩

theorem Answers.unique {v v' : Trace} {r r' : Except Failure (Option Ending)} (h : Answers q v r)
    (h' : Answers q v' r') : v = v' ∧ r = r' := by
  cases h with
  | proceed | quit | crash | stuck =>
    cases h'
    exact ⟨rfl, rfl⟩
  | bearable hbearable =>
    cases h' with
    | bearable => exact ⟨rfl, rfl⟩
    | fatal hfatal => simp [hbearable] at hfatal
  | fatal hfatal =>
    cases h' with
    | fatal => exact ⟨rfl, rfl⟩
    | bearable hbearable => simp [hbearable] at hfatal

theorem GoesOn.answers {report : Trace} (h : GoesOn u q report) : Answers q report (.ok none) := by
  cases h with
  | proceed => exact .proceed
  | error bearable => exact .bearable bearable

theorem Stops.answers {reason : Reason} (h : Stops u s' q reason) :
    Answers q [] (.ok (some reason.ending)) := by
  cases h with
  | quit => exact .quit
  | fatal fatal => exact .fatal fatal

/-- A line is processed once, and then the loop goes on or has come to its end, unless the line is
not done. -/
theorem runs_processReading_cases {r : Except Failure (Option Ending)}
    (h : Runs (processReading settings text) s t r s') :
    ∃ q u, Runs (processLine settings text) s u q s' ∧
      ((∃ report, t = u ++ report ∧ GoesOn u q report ∧ r = .ok none) ∨
        (∃ reason, t = u ∧ Stops u s' q reason ∧ r = .ok (some reason.ending)) ∨
        t = u ∧ q = .error .stuck ∧ r = .error .stuck) := by
  obtain ⟨q, u, v, rfl, hline, hanswers⟩ := runs_processReading_iff.1 h
  refine ⟨q, u, hline, ?_⟩
  rcases runs_processLine_ways hline with ⟨report, hgoesOn⟩ | ⟨reason, hstops⟩ | rfl
  · obtain ⟨rfl, rfl⟩ := hanswers.unique hgoesOn.answers
    exact .inl ⟨_, rfl, hgoesOn, rfl⟩
  · obtain ⟨rfl, rfl⟩ := hanswers.unique hstops.answers
    exact .inr (.inl ⟨reason, List.append_nil u, hstops, rfl⟩)
  · obtain ⟨rfl, rfl⟩ := hanswers.unique .stuck
    exact .inr (.inr ⟨List.append_nil u, rfl, rfl⟩)

/-! ## Turns -/

/-- What happens at a reading after which the loop goes on. -/
inductive Turn (settings : Settings) : Session → Reading → Trace → Session → Prop where
  | interrupted {s : Session} (directory : String) :
      Turn settings s .interrupted [⟨.currentDirectory, .ok directory⟩] s
  | line {s s' : Session} {text : String} {u report : Trace} {q : Except Failure Flow}
      (directory : String) (processed : Runs (processLine settings text) s u q s')
      (goesOn : GoesOn u q report) :
      Turn settings s (.line text) (⟨.currentDirectory, .ok directory⟩ :: u ++ report) s'

/-- What happens at readings one after the other, each in the session that the one before it has
left. -/
inductive Turns (settings : Settings) : Session → List Reading → Trace → Session → Prop where
  | nil (s : Session) : Turns settings s [] [] s
  | cons {s s₁ s' : Session} {reading : Reading} {readings : List Reading} {t u : Trace}
      (turn : Turn settings s reading t s₁) (later : Turns settings s₁ readings u s') :
      Turns settings s (reading :: readings) (t ++ u) s'

/-- What happens last, where `readings` are those that the loop has not come to yet. -/
inductive Ends (settings : Settings) :
    Session → List Reading → Trace → Reason → Session → Prop where
  | directory {s : Session} (readings : List Reading) (cause : Errno) :
      Ends settings s readings [⟨.currentDirectory, .error cause⟩] (.disaster (.directory cause)) s
  | endOfInput {s : Session} (directory : String) :
      Ends settings s [] [⟨.currentDirectory, .ok directory⟩] .endOfInput s.shutdown
  | unreadable {s : Session} (directory message : String) (later : List Reading) :
      Ends settings s (.failed message :: later) [⟨.currentDirectory, .ok directory⟩]
        (.disaster (.reading message)) s
  | line {s s' : Session} {text : String} {u : Trace} {q : Except Failure Flow} {reason : Reason}
      (directory : String) (later : List Reading)
      (processed : Runs (processLine settings text) s u q s') (stops : Stops u s' q reason) :
      Ends settings s (.line text :: later) (⟨.currentDirectory, .ok directory⟩ :: u) reason s'

/-- What happens at a line that is not done when the patience is over: the shell has waited for
nothing that often. -/
inductive Waits (settings : Settings) : Session → List Reading → Trace → Session → Prop where
  | line {s s' : Session} {text : String} {u : Trace} (directory : String) (later : List Reading)
      (processed : Runs (processLine settings text) s u (.error .stuck) s')
      (waited : settings.patience ≤ u.vainWaits) :
      Waits settings s (.line text :: later) (⟨.currentDirectory, .ok directory⟩ :: u) s'

/-- The reading at which the loop is last, and what it comes to there. -/
inductive Last (settings : Settings) :
    Session → List Reading → Trace → Except Failure Ending → Session → Prop where
  | ends {s s' : Session} {readings : List Reading} {t : Trace} {reason : Reason}
      (ends : Ends settings s readings t reason s') :
      Last settings s readings t (.ok reason.ending) s'
  | waits {s s' : Session} {readings : List Reading} {t : Trace}
      (waits : Waits settings s readings t s') : Last settings s readings t (.error .stuck) s'

/-- Each reading is the last one, or the loop goes on with the others. -/
theorem runs_loop_cases {readings : List Reading} {r : Except Failure Ending}
    (h : Runs (loop settings readings) s t r s') :
    Last settings s readings t r s' ∨
      ∃ reading later u v s₁, readings = reading :: later ∧ t = u ++ v ∧
        Turn settings s reading u s₁ ∧ Runs (loop settings later) s₁ v r s' := by
  unfold loop at h
  obtain ⟨answer, u, rfl, hu⟩ := runs_ask_bind.1 h
  rcases answer with cause | directory
  · obtain ⟨rfl, rfl, rfl⟩ := runs_pure.1 hu
    exact .inl (.ends (.directory readings cause))
  rcases readings with _ | ⟨reading, later⟩
  · rw [runs_modify_bind] at hu
    obtain ⟨rfl, rfl, rfl⟩ := runs_pure.1 hu
    exact .inl (.ends (.endOfInput directory))
  cases reading with
  | interrupted => exact .inr ⟨_, later, [_], u, s, rfl, rfl, .interrupted directory, hu⟩
  | failed message =>
    obtain ⟨rfl, rfl, rfl⟩ := runs_pure.1 hu
    exact .inl (.ends (.unreadable directory message later))
  | line text =>
    rcases runs_bind.1 hu with ⟨ending, s₁, v, w, rfl, hv, hw⟩ | ⟨e, rfl, hv⟩
    · obtain ⟨q, x, hline, ⟨report, rfl, hgoesOn, hnone⟩ | ⟨reason, rfl, hstops, hsome⟩ |
        ⟨-, -, hstuck⟩⟩ := runs_processReading_cases hv
      · cases hnone
        exact .inr ⟨_, later, _, w, s₁, rfl, rfl, .line directory hline hgoesOn, hw⟩
      · cases hsome
        obtain ⟨rfl, rfl, rfl⟩ := runs_pure.1 hw
        rw [List.append_nil]
        exact .inl (.ends (.line directory later hline hstops))
      · cases hstuck
    · obtain ⟨q, x, hline, ⟨report, -, -, hnone⟩ | ⟨reason, -, -, hsome⟩ | ⟨rfl, rfl, hstuck⟩⟩ :=
        runs_processReading_cases hv
      · cases hnone
      · cases hsome
      · cases hstuck
        exact .inl (.waits (.line directory later hline (patience_le_vainWaits hline)))

theorem Turn.runs {reading : Reading} {later : List Reading} {r : Except Failure Ending}
    (h : Turn settings s reading t s₁) (hlater : Runs (loop settings later) s₁ u r s') :
    Runs (loop settings (reading :: later)) s (t ++ u) r s' := by
  unfold loop
  cases h with
  | interrupted directory => exact runs_ask_bind.2 ⟨.ok directory, u, rfl, hlater⟩
  | line directory processed goesOn =>
    refine runs_ask_bind.2 ⟨.ok directory, _, rfl, ?_⟩
    have hline := runs_processReading_iff.2 ⟨_, _, _, rfl, processed, goesOn.answers⟩
    exact runs_bind.2 (.inl ⟨none, s₁, _, u, rfl, hline, hlater⟩)

theorem Ends.runs {readings : List Reading} {reason : Reason}
    (h : Ends settings s readings t reason s') :
    Runs (loop settings readings) s t (.ok reason.ending) s' := by
  unfold loop
  cases h with
  | directory readings cause => exact runs_ask_bind.2 ⟨.error cause, [], rfl, .done _⟩
  | endOfInput directory | unreadable directory =>
    exact runs_ask_bind.2 ⟨.ok directory, [], rfl, .done _⟩
  | @line _ _ u q _ directory later processed stops =>
    refine runs_ask_bind.2 ⟨.ok directory, u, rfl, runs_bind.2 ?_⟩
    have hline := runs_processReading_iff.2 ⟨_, _, _, rfl, processed, stops.answers⟩
    rw [List.append_nil] at hline
    exact .inl ⟨_, s', u, [], (List.append_nil u).symm, hline, .done _⟩

theorem Waits.runs {readings : List Reading} (h : Waits settings s readings t s') :
    Runs (loop settings readings) s t (.error .stuck) s' := by
  unfold loop
  cases h with
  | @line _ _ u directory later processed waited =>
    refine runs_ask_bind.2 ⟨.ok directory, u, rfl, runs_bind.2 ?_⟩
    have hline := runs_processReading_iff.2 ⟨_, _, _, rfl, processed, .stuck⟩
    rw [List.append_nil] at hline
    exact .inr ⟨.stuck, rfl, hline⟩

theorem Waits.patience_le {readings : List Reading} (h : Waits settings s readings t s') :
    settings.patience ≤ t.vainWaits := by
  cases h with
  | line directory later processed waited =>
    rw [← List.singleton_append, Trace.vainWaits_append]
    exact waited.trans (Nat.le_add_left ..)

/-- The loop goes on for some readings, and then it is at its last; it comes to no other. -/
theorem runs_loop_iff {readings : List Reading} {r : Except Failure Ending} :
    Runs (loop settings readings) s t r s' ↔
      ∃ before after u v s₁, readings = before ++ after ∧ t = u ++ v ∧
        Turns settings s before u s₁ ∧ Last settings s₁ after v r s' := by
  constructor
  · intro h
    -- The induction is on the readings; each session is the one that the turn before has left.
    induction readings generalizing s t with
    | nil =>
      rcases runs_loop_cases h with hlast | ⟨reading, later, _, _, _, hcons, -⟩
      · exact ⟨[], [], [], t, s, rfl, rfl, .nil s, hlast⟩
      · cases hcons
    | cons reading readings ih =>
      rcases runs_loop_cases h with hlast | ⟨_, _, u, v, s₁, hcons, rfl, hturn, hlater⟩
      · exact ⟨[], _, [], t, s, rfl, rfl, .nil s, hlast⟩
      · cases hcons
        obtain ⟨before, after, w, x, s₂, rfl, rfl, hturns, hlast⟩ := ih hlater
        exact ⟨reading :: before, after, u ++ w, x, s₂, rfl, (List.append_assoc ..).symm,
          .cons hturn hturns, hlast⟩
  · rintro ⟨before, after, u, v, s₁, rfl, rfl, hturns, hlast⟩
    induction hturns with
    | nil s =>
      cases hlast with
      | ends ends => exact ends.runs
      | waits waits => exact waits.runs
    | cons turn later ih =>
      rw [List.append_assoc]
      exact turn.runs (ih hlast)

/-- The loop takes leave if it ends well. -/
theorem runs_runLoop_iff {readings : List Reading} {r : Except Failure Ending} :
    Runs (runLoop settings readings) s t r s' ↔
      (∃ ending u, r = .ok ending ∧ t = u ++ ending.farewell ∧
        Runs (loop settings readings) s u (.ok ending) s') ∨
      ∃ e, r = .error e ∧ Runs (loop settings readings) s t (.error e) s' := by
  refine runs_bind.trans (or_congr_left ?_)
  constructor
  · rintro ⟨ending, s₁, u, v, rfl, hu, hv⟩
    rcases ending with cause | _
    · obtain ⟨rfl, rfl, rfl⟩ := runs_pure.1 hv
      exact ⟨_, u, rfl, rfl, hu⟩
    · obtain ⟨w, rfl, hw⟩ := runs_log_bind.1 hv
      obtain ⟨rfl, rfl, rfl⟩ := runs_pure.1 hw
      exact ⟨_, u, rfl, rfl, hu⟩
  · rintro ⟨ending, u, rfl, rfl, hu⟩
    refine ⟨ending, s', u, _, rfl, hu, ?_⟩
    rcases ending with cause | _
    · exact .done _
    · exact runs_log_bind.2 ⟨[], rfl, .done _⟩

/-- Where the loop ends well, nothing is left. -/
theorem Ends.emptied {readings : List Reading} {reason : Reason}
    (h : Ends settings s readings t reason s') (hreason : reason.ending = .ok ()) :
    s'.table = .empty ∧ s'.history.lines = [] := by
  cases h with
  | directory | unreadable => cases hreason
  | endOfInput => exact ⟨rfl, rfl⟩
  | line directory later processed stops =>
    cases stops with
    | quit granted noProcess noLine => exact ⟨noProcess, noLine⟩
    | fatal => cases hreason

/-! ## More patience -/

section

variable {announce : Bool} {probe : Probe} {patience more : Nat}

theorem extends_processReading (hmore : patience ≤ more) (text : String) :
    Extends (processReading ⟨announce, probe, patience⟩ text)
      (processReading ⟨announce, probe, more⟩ text) := by
  intro s t r s' h hends
  obtain ⟨q, u, v, rfl, hline, hanswers⟩ := runs_processReading_iff.1 h
  have hdone : q ≠ .error .stuck := by
    rintro rfl
    cases hanswers
    exact hends rfl
  exact runs_processReading_iff.2
    ⟨q, u, v, rfl, extends_processLine hmore text hline hdone, hanswers⟩

/-- A loop that ends does so in the same way with more patience. -/
theorem extends_loop (hmore : patience ≤ more) (readings : List Reading) :
    Extends (loop ⟨announce, probe, patience⟩ readings)
      (loop ⟨announce, probe, more⟩ readings) := by
  induction readings with
  | nil =>
    unfold loop
    refine .bind (.refl _) fun answer => ?_
    rcases answer with cause | directory <;> exact .refl _
  | cons reading later ih =>
    unfold loop
    refine .bind (.refl _) fun answer => ?_
    rcases answer with cause | directory
    · exact .refl _
    cases reading with
    | interrupted => exact ih
    | failed message => exact .refl _
    | line text =>
      refine .bind (extends_processReading hmore text) fun ending => ?_
      rcases ending with _ | ending
      · exact ih
      · exact .refl _

end

end Shell

/-! ## The program -/

/-- Whether an exchange takes place at a level of logging. -/
def Exchange.isWanted (level : Log.Level) : Exchange → Bool
  | ⟨.log event, _⟩ => event.isWanted level
  | _ => true

namespace Program

variable {α : Type} {level : Log.Level}

/-- At a level of logging the same is said but for the events that are not wanted. -/
theorem runs_logging_iff {p : Program α} {t : Trace} {a : α} :
    Runs (p.logging level) t a ↔ ∃ u, Runs p u a ∧ t = u.filter (·.isWanted level) := by
  induction p generalizing t with
  | done b =>
    rw [logging, runs_done]
    constructor
    · rintro ⟨rfl, rfl⟩
      exact ⟨[], .done _, rfl⟩
    · rintro ⟨u, hu, rfl⟩
      obtain ⟨rfl, rfl⟩ := runs_done.1 hu
      exact ⟨rfl, rfl⟩
  | call c next ih =>
    -- A call that is made at this level is made in both computations.
    have hmade : ∀ {p : Program α}, (∀ answer, Exchange.isWanted level ⟨c, answer⟩) →
        p = call c (fun answer => (next answer).logging level) →
        (Runs p t a ↔ ∃ u, Runs (call c next) u a ∧ t = u.filter (·.isWanted level)) := by
      rintro p hwanted rfl
      constructor
      · intro h
        obtain ⟨answer, v, rfl, hv⟩ := runs_call.1 h
        obtain ⟨u, hu, rfl⟩ := (ih answer).1 hv
        exact ⟨_, .call answer hu, (List.filter_cons_of_pos (hwanted answer)).symm⟩
      · rintro ⟨_, h, rfl⟩
        obtain ⟨answer, u, rfl, hu⟩ := runs_call.1 h
        rw [List.filter_cons_of_pos (hwanted answer)]
        exact .call answer ((ih answer).2 ⟨u, hu, rfl⟩)
    cases c with
    | log event =>
      by_cases hwanted : event.isWanted level
      · exact hmade (fun _ => hwanted) (if_pos hwanted)
      · have hdropped : ¬ Exchange.isWanted level ⟨.log event, ()⟩ := hwanted
        rw [logging, if_neg hwanted, ih]
        constructor
        · rintro ⟨u, hu, rfl⟩
          exact ⟨_, .call () hu, (List.filter_cons_of_neg hdropped).symm⟩
        · rintro ⟨_, h, rfl⟩
          obtain ⟨answer, u, rfl, hu⟩ := runs_call.1 h
          exact ⟨u, hu, List.filter_cons_of_neg hdropped⟩
    | _ => exact hmade (fun _ => rfl) rfl

end Program

/-- What is left out of the log is no wait. -/
theorem Trace.vainWaits_filter_isWanted (level : Log.Level) (t : Trace) :
    Trace.vainWaits (t.filter (·.isWanted level)) = t.vainWaits := by
  have hwanted : ∀ e ∈ t, (e.isVain && e.isWanted level) = true ↔ e.isVain = true := by
    intro e _
    obtain ⟨c, answer⟩ := e
    cases c <;> simp [Exchange.isVain, Exchange.isWanted]
  rw [vainWaits, List.countP_filter, vainWaits, List.countP_congr hwanted]

namespace App

open Shell (Turn Turns Ends Waits)

/-- What the program does with the readings of its input. -/
structure Course (settings : Settings) (level : Log.Level) (readings : List Reading) (t : Trace)
    (code : Nat) (before after : List Reading) (u v : Trace) (s s' : Session) (reason : Reason) :
    Prop where
  split : readings = before ++ after
  /-- Some readings are gone through, one after the other. -/
  turns : Turns settings .fresh before u s
  /-- The next one is the last one. -/
  ends : Ends settings s after v reason s'
  /-- This is all that the loop does. -/
  loop : Shell.Runs (Shell.runLoop settings readings) .fresh (u ++ v ++ reason.ending.farewell)
    (.ok reason.ending) s'
  /-- Nothing else is said, apart from the last words. -/
  said : t = (u ++ v ++ reason.ending.farewell ++ reason.ending.lastWords).filter (·.isWanted level)
  exit : code = reason.ending.code
  returned : code = App.success ↔ reason.ending = .ok ()
  failed : code = App.failure ↔ ∃ cause, reason.ending = .error cause
  success : reason.ending = .ok () ↔ reason = .quit ∨ reason = .endOfInput
  failure : ∀ cause, reason.ending = .error cause ↔ reason = .disaster cause
  emptied : code = App.success → s'.table = .empty ∧ s'.history.lines = []

/-- What the program has done with the readings of its input when the patience of its shell is
over. -/
structure Delay (settings : Settings) (level : Log.Level) (readings : List Reading) (t : Trace)
    (before after : List Reading) (u v : Trace) (s s' : Session) : Prop where
  split : readings = before ++ after
  turns : Turns settings .fresh before u s
  /-- The next one is a line that is not done. -/
  waits : Waits settings s after v s'
  said : t = (u ++ v).filter (·.isWanted level)
  waited : settings.patience ≤ t.vainWaits

section

variable {settings : Settings} {arguments : List String} {setting : Option String}
  {readings : List Reading} {o : Options} {patience : Nat} {t : Trace}

theorem runs_interact_iff {q : Except Failure Nat} :
    Program.Runs (interact settings readings) t q ↔
      (∃ ending u s', q = .ok ending.code ∧ t = u ++ ending.farewell ++ ending.lastWords ∧
        Shell.Runs (Shell.loop settings readings) .fresh u (.ok ending) s') ∨
      ∃ e s', q = .error e ∧ Shell.Runs (Shell.loop settings readings) .fresh t (.error e) s' := by
  constructor
  · intro h
    obtain ⟨⟨r, s'⟩, u, v, rfl, hu, hv⟩ := Program.runs_bind.1 h
    rcases Shell.runs_runLoop_iff.1 hu with ⟨ending, w, rfl, rfl, hloop⟩ | ⟨e, rfl, hloop⟩
    · refine .inl ⟨ending, w, s', ?_⟩
      rcases ending with cause | _
      · obtain ⟨_, y, rfl, hy⟩ := Program.runs_call.1 hv
        obtain ⟨rfl, rfl⟩ := Program.runs_done.1 hy
        exact ⟨rfl, rfl, hloop⟩
      · obtain ⟨rfl, rfl⟩ := Program.runs_done.1 hv
        exact ⟨rfl, rfl, hloop⟩
    · obtain ⟨rfl, rfl⟩ := Program.runs_done.1 hv
      rw [List.append_nil]
      exact .inr ⟨e, s', rfl, hloop⟩
  · rintro (⟨ending, u, s', rfl, rfl, hloop⟩ | ⟨e, s', rfl, hloop⟩)
    · have hrun := Shell.runs_runLoop_iff.2 (.inl ⟨ending, u, rfl, rfl, hloop⟩)
      refine Program.runs_bind.2 ⟨_, _, _, rfl, hrun, ?_⟩
      rcases ending with cause | _
      · exact Program.runs_call.2 ⟨(), [], rfl, .done _⟩
      · exact .done _
    · have hrun := Shell.runs_runLoop_iff.2 (.inr ⟨e, rfl, hloop⟩)
      exact Program.runs_bind.2 ⟨_, _, _, (List.append_nil t).symm, hrun, .done _⟩

theorem runs_run_iff {q : Except Failure Nat} (hoptions : Options.parse arguments = .ok (.run o)) :
    Program.Runs (run patience arguments setting readings) t q ↔
      ∃ w, Program.Runs (interact (App.settings o patience) readings) w q ∧
        t = w.filter (·.isWanted (.choose o.level setting)) := by
  rw [run, hoptions]
  exact Program.runs_logging_iff

/-- Where the program ends with an exit code, the loop has ended. -/
theorem runs_run_ok_iff {code : Nat} (hoptions : Options.parse arguments = .ok (.run o)) :
    Program.Runs (run patience arguments setting readings) t (.ok code) ↔
      ∃ before after u v s s' reason,
        Course (App.settings o patience) (.choose o.level setting) readings t code before after u v
          s s' reason := by
  rw [runs_run_iff hoptions]
  constructor
  · rintro ⟨w, hw, rfl⟩
    rcases runs_interact_iff.1 hw with ⟨ending, x, s', hcode, rfl, hloop⟩ | ⟨e, s', hcode, -⟩
    · obtain rfl := Except.ok.inj hcode
      obtain ⟨before, after, u, v, s, rfl, rfl, hturns, hlast⟩ := Shell.runs_loop_iff.1 hloop
      cases hlast with
      | @ends _ _ _ reason hends =>
        have hrun := Shell.runs_runLoop_iff.2 (.inl ⟨_, _, rfl, rfl, hloop⟩)
        exact ⟨before, after, u, v, s, s', reason, rfl, hturns, hends, hrun, rfl, rfl,
          reason.ending.code_eq_success_iff, reason.ending.code_eq_failure_iff,
          reason.ending_eq_ok_iff, reason.ending_eq_error_iff,
          fun hcode => hends.emptied (reason.ending.code_eq_success_iff.1 hcode)⟩
    · cases hcode
  · rintro ⟨before, after, u, v, s, s', reason, hcourse⟩
    have hloop := Shell.runs_loop_iff.2
      ⟨before, after, u, v, s, hcourse.split, rfl, hcourse.turns, .ends hcourse.ends⟩
    refine ⟨_, runs_interact_iff.2 (.inl ⟨reason.ending, u ++ v, s', ?_, rfl, hloop⟩), hcourse.said⟩
    rw [hcourse.exit]

/-- Where the program does not end, its shell is not patient enough. -/
theorem runs_run_error_iff {e : Failure} (hoptions : Options.parse arguments = .ok (.run o)) :
    Program.Runs (run patience arguments setting readings) t (.error e) ↔
      e = .stuck ∧ ∃ before after u v s s',
        Delay (App.settings o patience) (.choose o.level setting) readings t before after u v s
          s' := by
  rw [runs_run_iff hoptions]
  constructor
  · rintro ⟨w, hw, rfl⟩
    rcases runs_interact_iff.1 hw with ⟨ending, x, s', hcode, -, -⟩ | ⟨e', s', hcode, hloop⟩
    · cases hcode
    · obtain rfl := Except.error.inj hcode
      obtain ⟨before, after, u, v, s, rfl, rfl, hturns, hlast⟩ := Shell.runs_loop_iff.1 hloop
      cases hlast with
      | waits hwaits =>
        refine ⟨rfl, before, after, u, v, s, s', rfl, hturns, hwaits, rfl, ?_⟩
        rw [Trace.vainWaits_filter_isWanted, Trace.vainWaits_append]
        exact hwaits.patience_le.trans (Nat.le_add_left ..)
  · rintro ⟨rfl, before, after, u, v, s, s', hdelay⟩
    have hloop := Shell.runs_loop_iff.2
      ⟨before, after, u, v, s, hdelay.split, rfl, hdelay.turns, .waits hdelay.waits⟩
    exact ⟨_, runs_interact_iff.2 (.inr ⟨_, s', rfl, hloop⟩), hdelay.said⟩

/-- A program that ends does so in the same way if its shell is more patient. -/
theorem runs_run_of_le {more code : Nat} (hoptions : Options.parse arguments = .ok (.run o))
    (hmore : patience ≤ more)
    (h : Program.Runs (run patience arguments setting readings) t (.ok code)) :
    Program.Runs (run more arguments setting readings) t (.ok code) := by
  obtain ⟨w, hw, rfl⟩ := (runs_run_iff hoptions).1 h
  refine (runs_run_iff hoptions).2 ⟨w, runs_interact_iff.2 ?_, rfl⟩
  rcases runs_interact_iff.1 hw with ⟨ending, u, s', hcode, hsaid, hloop⟩ | ⟨e, s', hcode, -⟩
  · exact .inl ⟨ending, u, s', hcode, hsaid, Shell.extends_loop hmore readings hloop nofun⟩
  · cases hcode

end

/-- The program goes through the readings until the first that it ends with, and its exit code tells
why that was. It ends in no other way: if it has not ended by then its shell is at a line for which
it has waited until its patience was over. A run that ends is one of any shell that is more patient;
so with each system the program ends, or it waits for ever. -/
theorem run_course {arguments : List String} {setting : Option String} {readings : List Reading}
    {o : Options} (hoptions : Options.parse arguments = .ok (.run o)) :
    (∀ patience t code, Program.Runs (run patience arguments setting readings) t (.ok code) ↔
      ∃ before after u v s s' reason,
        Course (App.settings o patience) (.choose o.level setting) readings t code before after u v
          s s' reason) ∧
    (∀ patience t e, Program.Runs (run patience arguments setting readings) t (.error e) ↔
      e = .stuck ∧ ∃ before after u v s s',
        Delay (App.settings o patience) (.choose o.level setting) readings t before after u v s
          s') ∧
    (∀ patience more t code, patience ≤ more →
      Program.Runs (run patience arguments setting readings) t (.ok code) →
        Program.Runs (run more arguments setting readings) t (.ok code)) ∧
    ∀ system : Trace → (c : Call) → c.Answer,
      (∃ t code enough, t.IsAnsweredBy system ∧ ∀ patience, enough ≤ patience →
        Program.Runs (run patience arguments setting readings) t (.ok code)) ∨
      ∀ patience, ∃ t, t.IsAnsweredBy system ∧ patience ≤ t.vainWaits ∧
        Program.Runs (run patience arguments setting readings) t (.error .stuck) := by
  refine ⟨fun _ _ _ => runs_run_ok_iff hoptions, fun _ _ _ => runs_run_error_iff hoptions,
    fun _ _ _ _ hmore => runs_run_of_le hoptions hmore, fun system => ?_⟩
  by_cases hends : ∃ patience t code, t.IsAnsweredBy system ∧
      Program.Runs (run patience arguments setting readings) t (.ok code)
  · obtain ⟨enough, t, code, hanswered, hruns⟩ := hends
    exact .inl ⟨t, code, enough, hanswered, fun _ hmore => runs_run_of_le hoptions hmore hruns⟩
  · refine .inr fun patience => ?_
    obtain ⟨t, q, hruns, hanswered⟩ :=
      (run patience arguments setting readings).exists_answered system
    rcases q with e | code
    · obtain ⟨rfl, _, _, _, _, _, _, hdelay⟩ := (runs_run_error_iff hoptions).1 hruns
      exact ⟨t, hanswered, hdelay.waited, hruns⟩
    · exact absurd ⟨patience, t, code, hanswered, hruns⟩ hends

/-! ### An example

A reference is typed before there is a history, the next line is interrupted, and the one after
that is the command to quit. One more would follow. -/

namespace Left

def options : Options := ⟨false, none⟩

def readings : List Reading := [.line "!!", .interrupted, .line "quit", .line "procs"]

/-- That the shell leaves is not logged without an option. -/
def trace : Trace :=
  [⟨.currentDirectory, .ok "/"⟩, ⟨.complain "No history yet.", ()⟩, ⟨.currentDirectory, .ok "/"⟩,
    ⟨.currentDirectory, .ok "/"⟩]

/-- Nothing is waited for, and so no patience is needed. -/
def hasty : Settings := App.settings options 0

theorem parsed : Options.parse [] = .ok (.run options) := rfl

theorem runs_reference : Shell.Runs (Shell.processLine hasty "!!") .fresh []
    (.error (.error .noHistory)) .fresh := .done _

theorem runs_quit : Shell.Runs (Shell.processLine hasty "quit") .fresh [] (.ok .quit) .fresh := by
  rw [Shell.Runs, Shell.run_processLine "quit" (.ofArguments ["quit"]) (by decide) (by decide)
    (fun _ => rfl) (by decide) (by decide)]
  exact .done _

theorem runs : Program.Runs (run 0 [] none readings) trace (.ok success) := by
  refine (runs_run_iff parsed).2 ⟨trace ++ [⟨.log .leaving, ()⟩], ?_, rfl⟩
  have hfirst : Turn hasty .fresh (.line "!!")
      [⟨.currentDirectory, .ok "/"⟩, ⟨.complain "No history yet.", ()⟩] .fresh :=
    .line "/" runs_reference (.error rfl rfl fun _ => List.not_mem_nil)
  have hsecond : Turn hasty .fresh .interrupted [⟨.currentDirectory, .ok "/"⟩] .fresh :=
    .interrupted "/"
  have hlast : Ends hasty .fresh [.line "quit", .line "procs"] [⟨.currentDirectory, .ok "/"⟩] .quit
      .fresh := .line "/" [.line "procs"] runs_quit (.quit rfl rfl rfl)
  have hturns := Turns.cons hfirst (.cons hsecond (.nil _))
  have hloop := Shell.runs_loop_iff.2 ⟨_, _, _, _, _, rfl, rfl, hturns, .ends hlast⟩
  exact runs_interact_iff.2 (.inl ⟨_, _, _, rfl, rfl, hloop⟩)

end Left

theorem run_course_left :
    Options.parse [] = .ok (.run Left.options) ∧
      (∃ before after u v s s' reason,
        Course Left.hasty .warn Left.readings Left.trace success before after u v s s' reason) ∧
      ∀ patience, Program.Runs (run patience [] none Left.readings) Left.trace (.ok success) := by
  obtain ⟨hcourse, -, hmore, -⟩ := @run_course [] none Left.readings Left.options Left.parsed
  exact ⟨Left.parsed, (hcourse 0 Left.trace success).1 Left.runs, fun patience =>
    hmore 0 patience Left.trace success (Nat.zero_le patience) Left.runs⟩

end App

end JobShell
