import JobShell.Launch
import Mathlib.Tactic.SplitIfs

/-!
# Checking a command

What it takes for a command to pass its check, and what the check can refuse. Nothing that it
refuses is fatal, since nothing has been done yet.
-/

namespace JobShell

namespace Stage

theorem nulPosition?_eq_none_iff {s : String} : nulPosition? s = none ↔ '\x00' ∉ s.toList := by
  simp [nulPosition?]

/-- A stage may run if it has arguments and none of them holds a NUL. -/
theorem check_eq_ok_iff {s : Stage} :
    s.check = .ok () ↔ s.arguments ≠ [] ∧ ∀ arg ∈ s.arguments, '\x00' ∉ arg.toList := by
  simp only [← nulPosition?_eq_none_iff, ← List.findSome?_eq_none_iff, check, ne_eq,
    ← List.isEmpty_iff]
  split
  next hempty => exact iff_of_false nofun fun h => h.1 hempty
  next hne => cases s.arguments.findSome? nulPosition? <;> simp [hne]

theorem eq_of_check_eq_error {s : Stage} {e : LaunchError} (h : s.check = .error e) :
    (e = .emptyCommand ∧ s.arguments = []) ∨ ∃ position, e = .nul position := by
  rw [check] at h
  split at h
  next hempty =>
    cases h
    exact .inl ⟨rfl, List.isEmpty_iff.1 hempty⟩
  next =>
    split at h
    · cases h
      exact .inr ⟨_, rfl⟩
    · cases h

end Stage

namespace Command

variable {c : Command} {e : LaunchError}

/-- The stages of a command may be joined if there are at most two, the first does not write to a
file and into a pipe, and the second does not read from a file and out of a pipe. -/
theorem checkRedirects_eq_ok_iff :
    c.checkRedirects = .ok () ↔
      (c.rest ≠ [] → c.first.output = none) ∧
        (∀ second, c.rest.head? = some second → second.input = none) ∧ c.rest.length ≤ 1 := by
  rw [checkRedirects]
  rcases c.rest with _ | ⟨second, more⟩
  · simp
  · cases c.first.output <;> cases hinput : second.input <;> cases more <;> simp [hinput]

theorem eq_of_checkRedirects_eq_error (h : c.checkRedirects = .error e) :
    e = .outputBeforePipe ∨ e = .inputAfterPipe ∨ (e = .tooManyStages ∧ 1 < c.rest.length) := by
  rw [checkRedirects] at h
  rcases hrest : c.rest with _ | ⟨second, more⟩
  · rw [hrest] at h
    cases h
  · rw [hrest] at h
    dsimp only at h
    split_ifs at h with _ _ hmore
    · cases h
      exact .inl rfl
    · cases h
      exact .inr (.inl rfl)
    · cases h
      have hlength : more ≠ [] := by simpa using hmore
      refine .inr (.inr ⟨rfl, ?_⟩)
      simpa using List.length_pos_iff.2 hlength

/-- The stages of a command are checked one after the other, up to the first that may not run. -/
theorem checkStages_cases (stages : List Stage) :
    let result : Except LaunchError PUnit := do for s in stages do s.check
    (result = .ok ⟨⟩ ∧ ∀ s ∈ stages, s.check = .ok ()) ∨
      ∃ e, result = .error e ∧ ∃ before s later, stages = before ++ s :: later ∧
        (∀ s' ∈ before, s'.check = .ok ()) ∧ s.check = .error e := by
  induction stages with
  | nil => exact .inl ⟨rfl, List.forall_mem_nil _⟩
  | cons s rest ih =>
    rw [List.forIn_cons]
    rcases hs : s.check with e | _
    · exact .inr ⟨e, rfl, [], s, rest, rfl, List.forall_mem_nil _, hs⟩
    · rcases ih with ⟨hresult, hrest⟩ | ⟨e, hresult, before, s', later, rfl, hbefore, hs'⟩
      · exact .inl ⟨hresult, List.forall_mem_cons.2 ⟨hs, hrest⟩⟩
      · exact .inr ⟨e, hresult, s :: before, s', later, rfl,
          List.forall_mem_cons.2 ⟨hs, hbefore⟩, hs'⟩

theorem check_cases (c : Command) :
    (c.check = .ok () ∧ c.checkRedirects = .ok () ∧ ∀ s ∈ c.stages, s.check = .ok ()) ∨
      ∃ e, c.check = .error e ∧
        (c.checkRedirects = .error e ∨ c.checkRedirects = .ok () ∧
          ∃ before s later, c.stages = before ++ s :: later ∧
            (∀ s' ∈ before, s'.check = .ok ()) ∧ s.check = .error e) := by
  rw [check]
  rcases c.checkRedirects with e | _
  · exact .inr ⟨e, rfl, .inl rfl⟩
  · rcases checkStages_cases c.stages with ⟨hresult, hstages⟩ | ⟨e, hresult, hstage⟩
    · exact .inl ⟨hresult, rfl, hstages⟩
    · exact .inr ⟨e, hresult, .inr ⟨rfl, hstage⟩⟩

theorem check_eq_ok_iff :
    c.check = .ok () ↔ c.checkRedirects = .ok () ∧ ∀ s ∈ c.stages, s.check = .ok () := by
  rcases c.check_cases with ⟨hcheck, hpassed⟩ | ⟨e, hcheck, hrefused⟩
  · exact iff_of_true hcheck hpassed
  · refine iff_of_false (by simp [hcheck]) fun ⟨hredirects, hstages⟩ => ?_
    rcases hrefused with h | ⟨-, before, s, later, hs, -, h⟩
    · rw [hredirects] at h
      cases h
    · rw [hstages s (hs ▸ List.mem_append_cons_self)] at h
      cases h

/-- What a check can refuse: nothing that a line can hold has too many stages, or a stage without
arguments, and none of the reasons is fatal. -/
theorem eq_of_check_eq_error (h : c.check = .error e) :
    e = .outputBeforePipe ∨ e = .inputAfterPipe ∨ (∃ position, e = .nul position) ∨
      (e = .tooManyStages ∧ 1 < c.rest.length) ∨
      (e = .emptyCommand ∧ ∃ s ∈ c.stages, s.arguments = []) := by
  rcases c.check_cases with ⟨hcheck, -⟩ | ⟨e', hcheck, hrefused⟩
  · rw [hcheck] at h
    cases h
  · rw [hcheck] at h
    cases h
    rcases hrefused with h | ⟨-, before, s, later, hs, -, h⟩
    · rcases eq_of_checkRedirects_eq_error h with h | h | h
      · exact .inl h
      · exact .inr (.inl h)
      · exact .inr (.inr (.inr (.inl h)))
    · rcases Stage.eq_of_check_eq_error h with ⟨he, hnil⟩ | h
      · have hmem : s ∈ c.stages := hs ▸ List.mem_append_cons_self
        exact .inr (.inr (.inr (.inr ⟨he, s, hmem, hnil⟩)))
      · exact .inr (.inr (.inl h))

end Command

end JobShell
