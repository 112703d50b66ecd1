import JobShell.Proofs.Handling
import JobShell.Proofs.Roster

/-!
# What is recorded

Between two lines the history is a window on the texts that were recorded since the shell was last
told to quit. Which text a line adds to them depends on the lines typed so far and on nothing else:
what the system answers, and whether a line fails, does not matter. Main statement:
`history_eq_window`.
-/

namespace JobShell

namespace History

/-- The history that shows the last of some texts. -/
def window (texts : List String) : History := ⟨defaultCapacity, lastN defaultCapacity texts⟩

/-- What has been dropped once does not come back. -/
theorem lastN_lastN_append {α : Type} (n : Nat) (xs ys : List α) :
    lastN n (lastN n xs ++ ys) = lastN n (xs ++ ys) := by
  have hdrop : lastN n xs ++ ys = (xs ++ ys).drop (xs.length - n) :=
    (List.drop_append_of_le_length (Nat.sub_le ..)).symm
  have hindex : xs.length - n + ((xs ++ ys).length - (xs.length - n) - n) =
      (xs ++ ys).length - n := by
    rw [List.length_append]
    omega
  rw [hdrop, lastN, List.length_drop, List.drop_drop, hindex, lastN]

theorem push_window (texts : List String) (text : String) :
    (window texts).push text = window (texts ++ [text]) :=
  congrArg (mk defaultCapacity) (lastN_lastN_append ..)

end History

namespace Shell

variable {settings : Settings} {s s' : Session} {t : Trace} {r : Except Failure Flow}
  {raw text : String} {texts : List String}

/-- The texts recorded since the shell was last told to quit, once another line has been typed. -/
def remember (texts : List String) (raw : String) : List String :=
  (recorded? (.window texts) raw).elim texts fun text =>
    if builtinOn? text = some .quit then [] else texts ++ [text]

/-- Only the built-in command that ends the shell says that it is over. -/
theorem eq_proceed_of_runs_runBuiltin {builtin : Builtin} {arguments : List String} {flow : Flow}
    (hquit : builtin ≠ .quit)
    (h : Runs (runBuiltin settings builtin arguments) s t (.ok flow) s') : flow = .proceed := by
  unfold runBuiltin at h
  cases builtin with
  | quit => exact absurd rfl hquit
  | cd | procs | hist | control =>
    obtain ⟨_, _, _, _, -, -, hv⟩ := runs_bind_ok.1 h
    obtain ⟨-, ⟨⟩, -⟩ := runs_pure.1 hv
    rfl

/-- Handling a text leaves the history alone, or the text asks for the end of the shell. -/
theorem Handled.history_cases (h : Handled settings s text t r s') :
    (builtinOn? text = some .quit ∧ t = [] ∧ r = .ok .quit ∧ s' = s.shutdown) ∨
      (builtinOn? text ≠ some .quit ∧ r ≠ .ok .quit ∧ s'.history = s.history) := by
  cases h with
  | unreadable parsed => exact .inr ⟨by simp [builtinOn?, parsed], by simp, rfl⟩
  | empty parsed => exact .inr ⟨by simp [builtinOn?, parsed], by simp, rfl⟩
  | @builtin command builtin _ _ _ parsed asked runs =>
    rw [builtinOn?_of_parse parsed, asked]
    by_cases hquit : builtin = .quit
    · subst hquit
      exact .inl ⟨rfl, runs_quit.1 runs⟩
    · refine .inr ⟨by simpa using hquit, ?_, ((chores_runBuiltin hquit _).within runs).1⟩
      rintro rfl
      have hflow := eq_proceed_of_runs_runBuiltin hquit runs
      cases hflow
  | unflushed parsed asked e =>
    exact .inr ⟨by simp [builtinOn?_of_parse parsed, asked], by simp, rfl⟩
  | refused parsed asked checked =>
    exact .inr ⟨by simp [builtinOn?_of_parse parsed, asked], by simp, rfl⟩
  | launched parsed asked checked runs =>
    have hhistory := (runs_launch checked runs).history
    exact .inr ⟨by simp [builtinOn?_of_parse parsed, asked], by simp, hhistory⟩
  | unlaunched parsed asked checked runs =>
    have hhistory := (runs_launch checked runs).history
    exact .inr ⟨by simp [builtinOn?_of_parse parsed, asked], by simp, hhistory⟩

/-- A line adds its text to those that the history is a window on, or drops them all, or does
neither. -/
theorem window_remember (hwindow : s.history = .window texts)
    (h : Runs (processLine settings raw) s t r s') :
    s'.history = .window (remember texts raw) := by
  rw [remember, ← hwindow]
  rcases runs_processLine_cases h with ⟨hrecorded, -, rfl, -⟩ | ⟨text, hrecorded, hhandled⟩
  · rw [hrecorded]
    exact hwindow
  · rw [hrecorded, Option.elim_some]
    -- The text has been recorded before it is handled; only quitting drops it again.
    rcases hhandled.history_cases with ⟨hquit, -, -, rfl⟩ | ⟨hquit, -, hhistory⟩
    · rw [if_pos hquit, Session.shutdown, Session.record, hwindow]
      rfl
    · rw [if_neg hquit, hhistory, Session.record, hwindow, History.push_window]

/-- The history is the window on what has been recorded, whatever came of the lines. -/
theorem Passages.history_eq {ps : List Passage} (hrun : Passages settings .fresh ps s) :
    s.history = .window ((ps.map (·.raw)).foldl remember []) := by
  induction hrun with
  | nil => rfl
  | snoc p earlier line ends ih =>
    rw [List.map_append, List.foldl_append, List.map_singleton, List.foldl_cons, List.foldl_nil]
    exact window_remember ih line

/-- What the lines of a run said to the system, one after the other. -/
theorem Passages.processes {ps : List Passage} (hrun : Passages settings .fresh ps s) :
    ∃ t, Processes settings .fresh t s := by
  induction hrun with
  | nil => exact ⟨[], .nil _⟩
  | snoc p earlier line ends ih =>
    obtain ⟨t, ht⟩ := ih
    exact ⟨t ++ p.trace, .snoc p.raw ht line ends⟩

/-- A line of input is recorded as a text. -/
structure RecordedAs (settings : Settings) (s : Session) (raw text : String) : Prop where
  /-- Without its end, a line that is no reference stands for itself. -/
  plain : History.reference? (withoutLineEnd raw).toList = none → text = withoutLineEnd raw
  /-- The text can be read or not. -/
  parsed : (∃ e, Command.parse text = .error (.refused e)) ∨
    ∃ command, Command.parse text = .ok (some command)
  /-- If it cannot be read, all that happens is that it is recorded. -/
  unreadable : ∀ e, Command.parse text = .error (.refused e) →
    ((processLine settings raw).run s : Program _) =
      .done (.error (.error (.parse e)), s.record text)
  /-- If it can be read, the command is carried out once the text has been recorded. -/
  readable : ∀ command, Command.parse text = .ok (some command) →
    ((processLine settings raw).run s : Program _) =
      (execute settings command).run (s.record text)
  /-- The text is recorded once, however the line ends, unless the shell is told to quit. -/
  kept : ∀ t r s', Runs (processLine settings raw) s t r s' → r ≠ .ok .quit →
    s'.history = s.history.push text
  /-- The built-in command that tells it to quit leaves nothing. -/
  quits : ∀ t s', Runs (processLine settings raw) s t (.ok .quit) s' ↔
    builtinOn? text = some .quit ∧ t = [] ∧ s' = ⟨.empty, .window []⟩

theorem RecordedAs.of_recorded (hliteral : ∀ kept ∈ s.history.lines, Literal kept)
    (hwindow : s.history = .window texts) (hrecorded : recorded? s.history raw = some text) :
    RecordedAs settings s raw text := by
  obtain ⟨hblank, hresolved⟩ := recorded?_eq_some_iff.1 hrecorded
  have hprogram := run_processLine_of_recorded settings hrecorded
  have hempty : (s.record text).shutdown = ⟨.empty, .window []⟩ := by
    rw [Session.shutdown, Session.record, hwindow]
    rfl
  refine ⟨fun hplain => ?_, ?_, fun e he => ?_, fun command hcommand => ?_, fun t r s' h hr => ?_,
    fun t s' => ⟨fun h => ?_, fun h => ?_⟩⟩
  · rw [History.resolve_eq, hplain] at hresolved
    exact (Except.ok.inj hresolved).symm
  · -- What is recorded is never blank, so that something stands there.
    have hnotBlank := (Literal.of_resolve hliteral hblank hresolved).notBlank
    rcases hparsed : Command.parse text with (e | _) | _ | command
    · exact .inl ⟨e, rfl⟩
    · exact absurd hparsed (Command.parse_ne_brokenCut text)
    · exact absurd (Command.isBlankText_of_parse hparsed) (by simp [hnotBlank])
    · exact .inr ⟨command, rfl⟩
  · rw [hprogram, processResolved, run_modify_bind, he]
    rfl
  · rw [hprogram, run_processResolved_of_parse settings s hcommand]
  · rw [Runs, hprogram] at h
    rcases (runs_processResolved_cases h).history_cases with ⟨-, -, hquit, -⟩ | ⟨-, -, hhistory⟩
    · exact absurd hquit hr
    · exact hhistory
  · rw [Runs, hprogram] at h
    rcases (runs_processResolved_cases h).history_cases with ⟨hquit, ht, -, hs'⟩ | ⟨-, hquit, -⟩
    · exact ⟨hquit, ht, hs'.trans hempty⟩
    · exact absurd rfl hquit
  · obtain ⟨hquit, ht, hs'⟩ := h
    obtain ⟨command, hparsed, hasked⟩ := builtinOn?_eq_some_iff.1 hquit
    rw [Runs, hprogram, run_processResolved_of_parse settings s hparsed, execute_of_builtin? hasked]
    exact runs_quit.2 ⟨ht, rfl, hs'.trans hempty.symm⟩

/-- Between two lines the history is the window on what has been recorded, and what becomes of the
next line depends on it as follows. A line that is blank or cannot be resolved changes nothing; any
other is recorded as what it stands for. -/
theorem history_eq_window {ps : List Passage} (hrun : Passages settings .fresh ps s) :
    s.history = .window ((ps.map (·.raw)).foldl remember []) ∧
      (∀ raw, (Text.isBlankText (withoutLineEnd raw) = true ∨
          ∃ e, s.history.resolve (withoutLineEnd raw) = .error e) →
        ∃ r : Except Failure Flow, ((processLine settings raw).run s : Program _) = .done (r, s)) ∧
      ∀ raw text, Text.isBlankText (withoutLineEnd raw) = false →
        s.history.resolve (withoutLineEnd raw) = .ok text → RecordedAs settings s raw text := by
  obtain ⟨t, hprocesses⟩ := hrun.processes
  refine ⟨hrun.history_eq, fun raw h => ?_, fun raw text hblank hresolved => ?_⟩
  · have hnot : recorded? s.history raw = none := by
      rw [Option.eq_none_iff_forall_not_mem]
      intro text htext
      obtain ⟨hblank, hresolved⟩ := recorded?_eq_some_iff.1 htext
      rcases h with h | ⟨e, he⟩
      · rw [h] at hblank
        cases hblank
      · rw [he] at hresolved
        cases hresolved
    obtain ⟨r, hprogram, -⟩ := run_processLine_of_not_recorded settings hnot
    exact ⟨r, hprogram⟩
  · have hrecorded := recorded?_eq_some_iff.2 ⟨hblank, hresolved⟩
    exact .of_recorded hprocesses.literal hrun.history_eq hrecorded

/-- After three lines the first one is typed again by its number, and then by one that is too
high. -/
theorem history_eq_window_relisted :
    Passages Recycled.silent .fresh [Relisted.first, Relisted.second, Relisted.third]
        Recycled.afterListing ∧
      History.window (["a", "b &", "procs"].foldl remember []) = ⟨20, ["a", "b &", "procs"]⟩ ∧
      RecordedAs Recycled.silent Recycled.afterListing "!1\n" "a" ∧
      ∃ r : Except Failure Flow,
        ((processLine Recycled.silent "!4\n").run Recycled.afterListing : Program _) =
          .done (r, Recycled.afterListing) := by
  obtain ⟨hwindow, hignored, hrecorded⟩ := history_eq_window Relisted.passages
  refine ⟨Relisted.passages, hwindow.symm, ?_, ?_⟩
  · exact hrecorded "!1\n" "a" (by decide) (by decide)
  · exact hignored "!4\n" (.inr ⟨.invalidHistoryReference, by decide⟩)

end Shell

end JobShell
