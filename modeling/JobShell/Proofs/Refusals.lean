import JobShell.Proofs.Handling

/-!
# Refusals

A command is refused for the first of its flaws, in the order in which the shell looks for them, and
then nothing at all has been done for it. A command without flaws is never refused: the shell asks
the system for what it needs first. Main statement: `launch_refusals`.
-/

namespace JobShell

namespace Stage

variable {s : Stage} {e : LaunchError}

/-- What is wrong with a stage. -/
inductive Flaw (s : Stage) : LaunchError → Prop where
  | empty (arguments : s.arguments = []) : Flaw s .emptyCommand
  /-- This argument is the first that holds a NUL, and this NUL is its first. -/
  | nul {before later : List String} {arg : String} {head tail : List Char}
      (arguments : s.arguments = before ++ arg :: later)
      (clean : ∀ arg ∈ before, '\x00' ∉ arg.toList) (text : arg.toList = head ++ '\x00' :: tail)
      (first : '\x00' ∉ head) : Flaw s (.nul (Text.utf8Length head))

theorem nulPosition?_append {arg : String} {head tail : List Char}
    (text : arg.toList = head ++ '\x00' :: tail) (first : '\x00' ∉ head) :
    nulPosition? arg = some (Text.utf8Length head) := by
  have hhead : (head ++ '\x00' :: tail).takeWhile (· ≠ '\x00') = head := by
    have hclean : ∀ c ∈ head, decide (c ≠ '\x00') = true := by
      intro c hc
      exact decide_eq_true fun h => first (h ▸ hc)
    rw [List.takeWhile_append_of_pos hclean]
    simp
  rw [nulPosition?, text, hhead, if_pos (by simp)]

theorem nulPosition?_eq_some_iff {arg : String} {position : Nat} :
    nulPosition? arg = some position ↔
      ∃ head tail, arg.toList = head ++ '\x00' :: tail ∧ '\x00' ∉ head ∧
        position = Text.utf8Length head := by
  constructor
  · intro h
    have hmem : '\x00' ∈ arg.toList := by
      by_contra hnot
      rw [nulPosition?_eq_none_iff.2 hnot] at h
      cases h
    obtain ⟨head, tail, htext, hfirst⟩ := List.eq_append_cons_of_mem hmem
    rw [nulPosition?_append htext hfirst] at h
    exact ⟨head, tail, htext, hfirst, (Option.some.inj h).symm⟩
  · rintro ⟨head, tail, htext, hfirst, rfl⟩
    exact nulPosition?_append htext hfirst

/-- A stage is refused for what is wrong with it. -/
theorem check_eq_error_iff : s.check = .error e ↔ s.Flaw e := by
  rw [check]
  constructor
  · intro h
    split at h
    next hempty =>
      cases h
      exact .empty (List.isEmpty_iff.1 hempty)
    next =>
      split at h
      next position hposition =>
        cases h
        obtain ⟨before, arg, later, harguments, harg, hbefore⟩ :=
          List.findSome?_eq_some_iff.1 hposition
        obtain ⟨head, tail, htext, hfirst, rfl⟩ := nulPosition?_eq_some_iff.1 harg
        exact .nul harguments (fun arg harg => nulPosition?_eq_none_iff.1 (hbefore arg harg))
          htext hfirst
      next => cases h
  · intro h
    cases h with
    | empty harguments => rw [harguments, if_pos List.isEmpty_nil]
    | @nul before later arg head tail harguments hclean htext hfirst =>
      have hposition : s.arguments.findSome? nulPosition? = some (Text.utf8Length head) :=
        List.findSome?_eq_some_iff.2 ⟨before, arg, later, harguments,
          nulPosition?_append htext hfirst,
          fun arg harg => nulPosition?_eq_none_iff.2 (hclean arg harg)⟩
      rw [hposition, if_neg (by simp [harguments])]

end Stage

namespace Command

variable {c : Command} {e : LaunchError}

/-- What is wrong with a command, and when the shell looks for it: first at the way in which its
stages are joined, then at one stage after the other. -/
def Flaw (c : Command) : Nat → LaunchError → Prop
  | 0, e => e = .outputBeforePipe ∧ c.rest ≠ [] ∧ c.first.output ≠ none
  | 1, e => e = .inputAfterPipe ∧ ∃ second, c.rest.head? = some second ∧ second.input ≠ none
  | 2, e => e = .tooManyStages ∧ 1 < c.rest.length
  | n + 3, e => ∃ s, c.stages[n]? = some s ∧ s.Flaw e

/-- The first of the flaws of a command. -/
def FirstFlaw (c : Command) (e : LaunchError) : Prop :=
  ∃ n, c.Flaw n e ∧ ∀ m < n, ∀ e', ¬ c.Flaw m e'

/-- A command without flaws. -/
def Flawless (c : Command) : Prop := ∀ n e, ¬ c.Flaw n e

theorem Flaw.unique {n : Nat} {e' : LaunchError} (h : c.Flaw n e) (h' : c.Flaw n e') : e = e' := by
  match n, h, h' with
  | 0, h, h' | 1, h, h' | 2, h, h' => exact h.1.trans h'.1.symm
  | n + 3, ⟨s, hs, hflaw⟩, ⟨s', hs', hflaw'⟩ =>
    cases hs.symm.trans hs'
    have hcheck := Stage.check_eq_error_iff.2 hflaw
    rw [Stage.check_eq_error_iff.2 hflaw'] at hcheck
    exact (Except.error.inj hcheck).symm

theorem FirstFlaw.unique {e' : LaunchError} (h : c.FirstFlaw e) (h' : c.FirstFlaw e') : e = e' := by
  obtain ⟨n, hflaw, hfirst⟩ := h
  obtain ⟨n', hflaw', hfirst'⟩ := h'
  -- Neither flaw comes before the other.
  have hle : n ≤ n' := Nat.le_of_not_lt fun hlt => hfirst n' hlt e' hflaw'
  have hge : n' ≤ n := Nat.le_of_not_lt fun hlt => hfirst' n hlt e hflaw
  obtain rfl : n = n' := Nat.le_antisymm hle hge
  exact hflaw.unique hflaw'

theorem not_flaw_of_checkRedirects (h : c.checkRedirects = .ok ()) :
    ∀ n < 3, ∀ e, ¬ c.Flaw n e := by
  obtain ⟨houtput, hinput, hlength⟩ := checkRedirects_eq_ok_iff.1 h
  intro n hn e hflaw
  match n, hflaw with
  | 0, ⟨_, hrest, hsome⟩ => exact hsome (houtput hrest)
  | 1, ⟨_, second, hsecond, hsome⟩ => exact hsome (hinput second hsecond)
  | 2, ⟨_, hmany⟩ => exact absurd hlength hmany.not_ge
  | n + 3, _ => omega

theorem not_flaw_of_checkStage {n : Nat} {s : Stage} (hs : c.stages[n]? = some s)
    (h : s.check = .ok ()) (e : LaunchError) : ¬ c.Flaw (n + 3) e := by
  rintro ⟨s', hs', hflaw⟩
  cases hs.symm.trans hs'
  rw [Stage.check_eq_error_iff.2 hflaw] at h
  cases h

theorem flawless_of_check (h : c.check = .ok ()) : c.Flawless := by
  obtain ⟨hredirects, hstages⟩ := check_eq_ok_iff.1 h
  intro n e hflaw
  match n, hflaw with
  | 0, hflaw | 1, hflaw | 2, hflaw =>
    exact not_flaw_of_checkRedirects hredirects _ (by omega) e hflaw
  | n + 3, ⟨s, hs, hflaw⟩ =>
    exact not_flaw_of_checkStage hs (hstages s (List.mem_of_getElem? hs)) e ⟨s, hs, hflaw⟩

theorem firstFlaw_of_checkRedirects (h : c.checkRedirects = .error e) : c.FirstFlaw e := by
  rw [checkRedirects] at h
  rcases hrest : c.rest with _ | ⟨second, more⟩
  · rw [hrest] at h
    cases h
  · rw [hrest] at h
    dsimp only at h
    split_ifs at h with houtput hinput hmore
    · cases h
      refine ⟨0, ⟨rfl, ?_, Option.isSome_iff_ne_none.1 houtput⟩, fun m hm => ?_⟩
      · rw [hrest]
        exact List.cons_ne_nil _ _
      · omega
    · cases h
      refine ⟨1, ⟨rfl, second, ?_, Option.isSome_iff_ne_none.1 hinput⟩, fun m hm e hflaw => ?_⟩
      · rw [hrest, List.head?_cons]
      · obtain rfl : m = 0 := by omega
        exact houtput (Option.isSome_iff_ne_none.2 hflaw.2.2)
    · cases h
      have hlength : more ≠ [] := by simpa using hmore
      refine ⟨2, ⟨rfl, ?_⟩, fun m hm e hflaw => ?_⟩
      · rw [hrest, List.length_cons]
        have hpos := List.length_pos_iff.2 hlength
        omega
      · obtain rfl | rfl : m = 0 ∨ m = 1 := by omega
        · exact houtput (Option.isSome_iff_ne_none.2 hflaw.2.2)
        · obtain ⟨-, second', hsecond, hsome⟩ := hflaw
          rw [hrest, List.head?_cons] at hsecond
          cases hsecond
          exact hinput (Option.isSome_iff_ne_none.2 hsome)

/-- A command is refused for its first flaw. -/
theorem firstFlaw_of_check (h : c.check = .error e) : c.FirstFlaw e := by
  rcases c.check_cases with ⟨hcheck, -⟩ | ⟨e', hcheck, hrefused⟩
  · rw [hcheck] at h
    cases h
  · rw [hcheck] at h
    cases h
    rcases hrefused with hredirects | ⟨hredirects, before, s, later, hstages, hbefore, hs⟩
    · exact firstFlaw_of_checkRedirects hredirects
    · have hhere : c.stages[before.length]? = some s := by
        rw [hstages, List.getElem?_append_right (Nat.le_refl _), Nat.sub_self,
          List.getElem?_cons_zero]
      refine ⟨before.length + 3, ⟨s, hhere, Stage.check_eq_error_iff.1 hs⟩, fun m hm e' => ?_⟩
      rcases Nat.lt_or_ge m 3 with hlt | hge
      · exact not_flaw_of_checkRedirects hredirects m hlt e'
      · obtain ⟨k, rfl⟩ := Nat.exists_eq_add_of_le' hge
        have hk : k < before.length := by omega
        have hthere : c.stages[k]? = some before[k] := by
          rw [hstages, List.getElem?_append_left hk, List.getElem?_eq_getElem hk]
        exact not_flaw_of_checkStage hthere (hbefore _ (List.getElem_mem hk)) e'

theorem check_eq_error_iff : c.check = .error e ↔ c.FirstFlaw e := by
  refine ⟨firstFlaw_of_check, fun h => ?_⟩
  rcases hcheck : c.check with e' | _
  · rw [(firstFlaw_of_check hcheck).unique h]
  · obtain ⟨n, hflaw, -⟩ := h
    exact absurd hflaw (flawless_of_check hcheck n e)

/-- Nothing is wrong with the first stage; in the second, the fourth byte is a NUL. -/
example : check ⟨.ofArguments ["a"], [.ofArguments ["b", "é!\x00"]]⟩ = .error (.nul 3) := by decide

theorem check_eq_ok_iff_flawless : c.check = .ok () ↔ c.Flawless := by
  refine ⟨flawless_of_check, fun h => ?_⟩
  rcases hcheck : c.check with e | _
  · obtain ⟨n, hflaw, -⟩ := firstFlaw_of_check hcheck
    exact absurd hflaw (h n e)
  · rfl

end Command

namespace Shell

/-- The first thing that a launch asks of the system. -/
def firstCall (settings : Settings) (command : Command) : Call :=
  match command.rest with
  | [] => .fork ⟨command.first, .alone, none, settings.announce⟩
  | _ :: _ => .makePipe

variable {command : Command}

theorem run_launch_of_error (settings : Settings) (s : Session) {e : LaunchError}
    (h : command.check = .error e) :
    ((launch settings command).run s : Program _) = .done (.error (.error (.launch e)), s) := by
  rw [launch, h]
  rfl

theorem run_launch_of_ok (settings : Settings) (s : Session) (h : command.check = .ok ()) :
    ∃ next, ((launch settings command).run s : Program _) =
      .call (firstCall settings command) next := by
  rw [launch, h]
  unfold spawnStages firstCall
  cases command.rest with
  | nil => exact ⟨_, rfl⟩
  | cons second more => exact ⟨_, rfl⟩

/-- What a launch does about the flaws of a command. -/
structure Refusals (settings : Settings) (command : Command) (s : Session) : Prop where
  /-- A command is refused exactly for its first flaw, and then no call has been made and nothing
  has changed. -/
  refused : ∀ e, command.FirstFlaw e ↔
    ((launch settings command).run s : Program _) = .done (.error (.error (.launch e)), s)
  /-- There is a first flaw if there are any. -/
  found : command.Flawless ∨ ∃ e, command.FirstFlaw e
  /-- The system is asked for something exactly if there are none. -/
  begun : command.Flawless ↔
    ∃ next, ((launch settings command).run s : Program _) = .call (firstCall settings command) next
  /-- What goes wrong after that is the system's fault. -/
  fatal : command.Flawless → ∀ t e s',
    Runs (launch settings command) s t (.error (.error (.launch e))) s' →
      ∃ cause, e = .pipe cause ∨ e = .fork cause

/-- A launch goes through the flaws of a command in order before it does anything, whatever the
command is and whatever the table holds. -/
theorem launch_refusals (settings : Settings) (command : Command) (s : Session) :
    Refusals settings command s where
  refused e := by
    rw [← Command.check_eq_error_iff]
    refine ⟨run_launch_of_error settings s, fun h => ?_⟩
    rcases hcheck : command.check with e' | _
    · rw [run_launch_of_error settings s hcheck] at h
      cases h
      rfl
    · obtain ⟨next, hnext⟩ := run_launch_of_ok settings s hcheck
      rw [hnext] at h
      cases h
  found := by
    rcases hcheck : command.check with e | _
    · exact .inr ⟨e, Command.firstFlaw_of_check hcheck⟩
    · exact .inl (Command.flawless_of_check hcheck)
  begun := by
    rw [← Command.check_eq_ok_iff_flawless]
    refine ⟨run_launch_of_ok settings s, fun ⟨next, hnext⟩ => ?_⟩
    rcases hcheck : command.check with e | _
    · rw [run_launch_of_error settings s hcheck] at hnext
      cases hnext
    · rfl
  fatal hflawless t e s' h := by
    have hcheck := Command.check_eq_ok_iff_flawless.2 hflawless
    have hfatal : e.isFatal := ((runs_launch hcheck h).fatal _ rfl).1
    cases e with
    | pipe cause => exact ⟨cause, .inl rfl⟩
    | fork cause => exact ⟨cause, .inr rfl⟩
    | outputBeforePipe | inputAfterPipe | tooManyStages | emptyCommand | nul => cases hfatal

end Shell

end JobShell
