import JobShell.Proofs.Launching
import Mathlib.Data.Nat.Bitwise

/-!
# Verdicts

What the shell makes of the outcomes of its waits. A wait begins again after some outcomes, and the
first other one decides it; a poll and a wait that blocks differ in the outcomes they pass over.
An outcome comes from a status word that has been taken apart, which fails where the word names a
signal that has no name. Main statement: `wait_verdicts` says which status each way of waiting finds
in every sequence of outcomes, and that this is the status that the bits of the word stand for.
-/

namespace JobShell

/-- What a call to wait brings. -/
abbrev WaitOutcome : Type := Except Errno WaitStatus

namespace WaitOutcome

/-- Whether a wait begins again after an outcome. -/
def isRetried : WaitMode → WaitOutcome → Bool
  | _, .error e => e = .interrupted
  | .poll, .ok _ => false
  | .block, .ok outcome => outcome = .stillAlive || outcome = .continued

/-- Whether the process has stopped. -/
def isStop : WaitOutcome → Bool
  | .ok (.stopped _) | .ok (.tracedEvent _ _) | .ok .tracedCall => true
  | _ => false

/-- The news that a poll has when this outcome decides it. -/
def news : WaitOutcome → Option Status
  | .ok .stillAlive => none
  | .ok .continued => some .running
  | .ok (.stopped _) | .ok (.tracedEvent _ _) | .ok .tracedCall => some .suspended
  | .ok (.exited _) | .ok (.signaled _ _) | .error _ => some .terminated

/-- The status that a wait finds when this outcome decides it. -/
def found (o : WaitOutcome) : Status := if o.isStop then .suspended else .terminated

@[simp] theorem news_ok (outcome : WaitStatus) : news (.ok outcome) = outcome.status? := by
  cases outcome <;> rfl

theorem isRetried_block (o : WaitOutcome) : isRetried .block o = Shell.isUndecided o := by
  rcases o with e | outcome
  · rfl
  · cases outcome <;> rfl

/-- Where a wait that blocks is decided, a poll has news of the same status. -/
theorem news_of_decided {o : WaitOutcome} (h : isRetried .block o = false) :
    o.news = some o.found := by
  rcases o with e | outcome
  · rfl
  · cases outcome with
    | continued | stillAlive => cases h
    | _ => rfl

end WaitOutcome

/-- The outcome of a call to wait. -/
def Exchange.outcome? : Exchange → Option WaitOutcome
  | ⟨.wait _ _, o⟩ => some o
  | _ => none

/-- The outcomes of the calls to wait, in order. -/
def Trace.outcomes (t : Trace) : List WaitOutcome := t.filterMap Exchange.outcome?

@[simp] theorem Trace.outcomes_wait (pid : Pid) (mode : WaitMode) (o : WaitOutcome) (t : Trace) :
    Trace.outcomes (⟨.wait pid mode, o⟩ :: t) = o :: t.outcomes := rfl

namespace Shell

/-! ## Loops that wait -/

section

variable {β : Type} {pid : Pid} {mode : WaitMode} {verdict : WaitOutcome → β}
  {loop : Nat → Shell β} {o : WaitOutcome} {skipped later outcomes : List WaitOutcome}
  {patience : Nat} {s s' : Session} {t : Trace}

/-- The note that a wait leaves when an error decides it. -/
def note (pid : Pid) : WaitMode → WaitOutcome → Trace
  | .poll, .error e => [⟨.log (.pollFailed pid e), ()⟩]
  | .block, .error e => [⟨.log (.waitFailed pid e), ()⟩]
  | _, .ok _ => []

/-- What is said in a wait: one call after the other, and a note at the end. -/
def waitTrace (pid : Pid) (mode : WaitMode) (skipped : List WaitOutcome) (o : WaitOutcome) :
    Trace :=
  skipped.map (fun x => ⟨.wait pid mode, x⟩) ++ ⟨.wait pid mode, o⟩ :: note pid mode o

@[simp] theorem outcomes_note (pid : Pid) (mode : WaitMode) (o : WaitOutcome) :
    (note pid mode o).outcomes = [] := by
  rcases o with e | outcome <;> cases mode <;> rfl

/-- As long as its waits are answered by `outcomes` in turn, a computation can go in one way only:
it leaves the trace, does not change the session, and has the value. -/
def Settles (x : Shell β) (outcomes : List WaitOutcome) (t : Trace) (b : β) : Prop :=
  ∀ s t' r s', Runs x s t' r s' ∧ t'.outcomes <+: outcomes ↔ t' = t ∧ r = .ok b ∧ s' = s

/-- A loop that passes over the outcomes that are retried, and concludes from the first other
one. -/
structure Retries (pid : Pid) (mode : WaitMode) (verdict : WaitOutcome → β)
    (loop : Nat → Shell β) : Prop where
  asks : ∀ {n s t r s'}, Runs (loop (n + 1)) s t r s' → ∃ o u, t = ⟨.wait pid mode, o⟩ :: u
  again : ∀ {o : WaitOutcome} {n s t r s'}, o.isRetried mode →
    (Runs (loop (n + 1)) s (⟨.wait pid mode, o⟩ :: t) r s' ↔ Runs (loop n) s t r s')
  concludes : ∀ {o : WaitOutcome} {n s t r s'}, o.isRetried mode = false →
    (Runs (loop (n + 1)) s (⟨.wait pid mode, o⟩ :: t) r s' ↔
      t = note pid mode o ∧ r = .ok (verdict o) ∧ s' = s)

namespace Retries

/-- The outcomes that are passed over leave nothing behind but the calls. -/
theorem settles (h : Retries pid mode verdict loop) (hskipped : ∀ x ∈ skipped, x.isRetried mode)
    (ho : o.isRetried mode = false) (hpatience : skipped.length < patience) :
    Settles (loop patience) (skipped ++ o :: later) (waitTrace pid mode skipped o) (verdict o) := by
  obtain ⟨n, rfl⟩ := Nat.exists_eq_add_one_of_ne_zero (Nat.ne_zero_of_lt hpatience)
  intro s t r s'
  -- Each outcome that is passed over takes one turn of the patience with it.
  induction skipped generalizing n t with
  | nil =>
    constructor
    · rintro ⟨hruns, hprefix⟩
      obtain ⟨x, u, rfl⟩ := h.asks hruns
      obtain ⟨rfl, -⟩ := List.cons_prefix_cons.1 hprefix
      obtain ⟨rfl, hend⟩ := (h.concludes ho).1 hruns
      exact ⟨rfl, hend⟩
    · rintro ⟨rfl, hend⟩
      refine ⟨(h.concludes ho).2 ⟨rfl, hend⟩, ?_⟩
      rw [waitTrace, List.map_nil, List.nil_append, Trace.outcomes_wait, outcomes_note]
      exact List.cons_prefix_cons.2 ⟨rfl, List.nil_prefix⟩
  | cons x rest ih =>
    obtain ⟨hx, hrest⟩ := List.forall_mem_cons.1 hskipped
    rw [List.length_cons, Nat.add_lt_add_iff_right] at hpatience
    obtain ⟨m, rfl⟩ := Nat.exists_eq_add_one_of_ne_zero (Nat.ne_zero_of_lt hpatience)
    constructor
    · rintro ⟨hruns, hprefix⟩
      obtain ⟨y, u, rfl⟩ := h.asks hruns
      obtain ⟨rfl, hlater⟩ := List.cons_prefix_cons.1 hprefix
      obtain ⟨rfl, hend⟩ := (ih hrest m hpatience u).1 ⟨(h.again hx).1 hruns, hlater⟩
      exact ⟨rfl, hend⟩
    · rintro ⟨rfl, hend⟩
      obtain ⟨hruns, hprefix⟩ := (ih hrest m hpatience _).2 ⟨rfl, hend⟩
      exact ⟨(h.again hx).2 hruns, List.cons_prefix_cons.2 ⟨rfl, hprefix⟩⟩

end Retries

/-- The loop passes over the outcomes `skipped` and is decided by `o`, whatever comes later, if it
has more patience than that. -/
def SettledAt (loop : Nat → Shell β) (pid : Pid) (mode : WaitMode) (skipped : List WaitOutcome)
    (o : WaitOutcome) (later : List WaitOutcome) (b : β) : Prop :=
  ∀ patience, skipped.length < patience →
    Settles (loop patience) (skipped ++ o :: later) (waitTrace pid mode skipped o) b

/-- The loop passes over the outcomes that are retried, and the first other one decides it. -/
def SettledBy (loop : Nat → Shell β) (pid : Pid) (mode : WaitMode) (outcomes : List WaitOutcome)
    (verdict : WaitOutcome → β) : Prop :=
  ∃ skipped o later, outcomes = skipped ++ o :: later ∧ (∀ x ∈ skipped, x.isRetried mode) ∧
    o.isRetried mode = false ∧ SettledAt loop pid mode skipped o later (verdict o)

theorem Retries.settledBy (h : Retries pid mode verdict loop)
    (hdecided : ∃ o ∈ outcomes, o.isRetried mode = false) :
    SettledBy loop pid mode outcomes verdict := by
  induction outcomes with
  | nil => exact absurd hdecided (by simp)
  | cons x rest ih =>
    by_cases hx : x.isRetried mode
    · have hrest : ∃ o ∈ rest, o.isRetried mode = false := by simpa [hx] using hdecided
      obtain ⟨skipped, o, later, rfl, hskipped, ho, -⟩ := ih hrest
      have hall : ∀ y ∈ x :: skipped, y.isRetried mode := List.forall_mem_cons.2 ⟨hx, hskipped⟩
      exact ⟨x :: skipped, o, later, rfl, hall, ho, fun _ => h.settles hall ho⟩
    · have hx := Bool.eq_false_iff.2 hx
      have hnone : ∀ y ∈ ([] : List WaitOutcome), y.isRetried mode := List.forall_mem_nil _
      exact ⟨[], x, rest, rfl, hnone, hx, fun _ => h.settles hnone hx⟩

end

/-! ## The two ways of waiting -/

theorem retries_pollChild (pid : Pid) : Retries pid .poll WaitOutcome.news (pollChild pid) where
  asks := by
    intro n s t r s' h
    obtain ⟨o, u, rfl, -⟩ := runs_ask_bind.1 h
    exact ⟨o, u, rfl⟩
  again := by
    intro o n s t r s' h
    rw [pollChild, runs_ask_cons]
    rcases o with e | outcome
    · dsimp only
      rw [if_pos (of_decide_eq_true h)]
    · cases h
  concludes := by
    intro o n s t r s' h
    rw [pollChild, runs_ask_cons]
    rcases o with e | outcome
    · dsimp only
      rw [if_neg (of_decide_eq_false h), runs_log_bind]
      constructor
      · rintro ⟨u, rfl, hu⟩
        obtain ⟨rfl, hend⟩ := runs_pure.1 hu
        exact ⟨rfl, hend⟩
      · rintro ⟨rfl, hend⟩
        exact ⟨[], rfl, runs_pure.2 ⟨rfl, hend⟩⟩
    · rw [WaitOutcome.news_ok]
      exact runs_pure

theorem retries_awaitChild (pid : Pid) :
    Retries pid .block WaitOutcome.found (awaitChild pid) where
  asks := by
    intro n s t r s' h
    obtain ⟨o, u, rfl, -⟩ := runs_ask_bind.1 h
    exact ⟨o, u, rfl⟩
  again := by
    intro o n s t r s' h
    rw [WaitOutcome.isRetried_block] at h
    exact runs_awaitChild_of_isUndecided h
  concludes := by
    intro o n s t r s' h
    have hnews := WaitOutcome.news_of_decided h
    rcases o with e | outcome
    · exact runs_awaitChild_of_error (of_decide_eq_false h)
    · rw [WaitOutcome.news_ok] at hnews
      refine runs_awaitChild_of_status hnews ?_
      unfold WaitOutcome.found
      split <;> nofun

end Shell

/-! ## Status words -/

namespace StatusWord

/-- The number in the low seven bits, that of a signal if one has killed the process. -/
def termSignal (raw : Nat) : Nat := raw &&& 0x7F

/-- The second byte, the code of an exit. -/
def exitCode (raw : Nat) : Nat := (raw >>> 8) &&& 0xFF

/-- The second byte, the number of the signal of a stop. -/
def stopSignal (raw : Nat) : Nat := (raw >>> 8) &&& 0xFF

def dumpedCore (raw : Nat) : Bool := raw &&& 0x80 ≠ 0

def hasExited (raw : Nat) : Bool := termSignal raw = 0

def wasKilled (raw : Nat) : Bool := termSignal raw ≠ 0 && termSignal raw ≠ 0x7F

def hasStopped (raw : Nat) : Bool := raw &&& 0xFF = 0x7F

def hasContinued (raw : Nat) : Bool := raw = 0xFFFF

/-- The status that the bits of a word stand for. -/
def status? (raw : Nat) : Option Status :=
  if hasExited raw || wasKilled raw then some .terminated
  else if hasStopped raw then some .suspended
  else if hasContinued raw then some .running
  else none

/-- The words that Linux reports of a child that nobody traces. -/
inductive Reported : WaitMode → Nat → Prop where
  | exited {mode : WaitMode} (code : Nat) (hcode : code < 0x100) : Reported mode (code <<< 8)
  | killed {mode : WaitMode} (signal : Nat) (hlow : 1 ≤ signal) (hhigh : signal ≤ 64)
      (core : Bool) : Reported mode (core.toNat <<< 7 ||| signal)
  | stopped {mode : WaitMode} (signal : Signal) (hstop : signal.effect = .stop) :
      Reported mode (signal.number <<< 8 ||| 0x7F)
  /-- Only a poll is told of this. -/
  | continued : Reported .poll 0xFFFF

/-- An outcome with a signal, if the number is one of a signal that has a name. -/
def ofSignal (n : Nat) (f : Signal → WaitStatus) : WaitOutcome :=
  (Signal.ofNumber? n).elim (.error .invalid) fun s => .ok (f s)

/-- Status words are taken apart as their bits say, and a signal outside 1 to 31 is an error. -/
structure Decodes (fromRaw : Nat → WaitOutcome) : Prop where
  exited : ∀ {raw}, hasExited raw → fromRaw raw = .ok (.exited (exitCode raw))
  killed : ∀ {raw}, wasKilled raw →
    fromRaw raw = ofSignal (termSignal raw) (.signaled · (dumpedCore raw))
  stopped : ∀ {raw signal}, hasStopped raw → raw < 0x10000 →
    Signal.ofNumber? (stopSignal raw) = some signal → fromRaw raw = .ok (.stopped signal)
  continued : ∀ {raw}, hasContinued raw → fromRaw raw = .ok .continued

section

variable {raw : Nat}

theorem termSignal_eq (raw : Nat) : termSignal raw = raw % 0x80 :=
  Nat.and_two_pow_sub_one_eq_mod raw 7

theorem secondByte_eq (raw : Nat) : (raw >>> 8) &&& 0xFF = raw / 0x100 % 0x100 := by
  rw [Nat.shiftRight_eq_div_pow]
  exact Nat.and_two_pow_sub_one_eq_mod _ 8

theorem dumpedCore_eq (raw : Nat) : dumpedCore raw = decide (raw / 0x80 % 2 = 1) := by
  have hbit : raw &&& 0x80 = (raw.testBit 7).toNat * 0x80 := Nat.and_two_pow raw 7
  rw [dumpedCore, hbit, Nat.testBit_eq_decide_div_mod_eq]
  cases decide (raw / 0x80 % 2 = 1) <;> rfl

theorem hasExited_iff : hasExited raw ↔ raw % 0x80 = 0 := by
  rw [hasExited, termSignal_eq, decide_eq_true_iff]

theorem wasKilled_iff : wasKilled raw ↔ raw % 0x80 ≠ 0 ∧ raw % 0x80 ≠ 0x7F := by
  rw [wasKilled, termSignal_eq, Bool.and_eq_true, decide_eq_true_iff, decide_eq_true_iff]

theorem hasStopped_iff : hasStopped raw ↔ raw % 0x100 = 0x7F := by
  have hbyte : raw &&& 0xFF = raw % 0x100 := Nat.and_two_pow_sub_one_eq_mod raw 8
  rw [hasStopped, hbyte, decide_eq_true_iff]

theorem status?_of_killed (h : wasKilled raw) : status? raw = some .terminated := by
  rw [status?, h, Bool.or_true, if_pos rfl]

theorem status?_of_stopped (h : hasStopped raw) : status? raw = some .suspended := by
  have hbits := hasStopped_iff.1 h
  have hexited : ¬ hasExited raw := fun he => by have := hasExited_iff.1 he; omega
  have hkilled : ¬ wasKilled raw := fun hk => by have := wasKilled_iff.1 hk; omega
  rw [status?, if_neg (by simp [hexited, hkilled]), if_pos h]

end

/-! ## Words taken apart -/

/-- A status word taken apart by its remainders. -/
def outcome (raw : Nat) : WaitOutcome :=
  match WaitStatus.decode raw with
  | .outcome status => .ok status
  | .unknownSignal | .malformed => .error .invalid

theorem decodes_outcome : Decodes outcome where
  exited := by
    intro raw h
    rw [outcome, WaitStatus.decode, if_pos (hasExited_iff.1 h), exitCode, secondByte_eq]
  killed := by
    intro raw h
    obtain ⟨hexited, hstopped⟩ := wasKilled_iff.1 h
    rw [outcome, WaitStatus.decode, if_neg hexited, if_pos hstopped, ofSignal, termSignal_eq,
      dumpedCore_eq, WaitStatus.Decoded.ofSignal]
    cases Signal.ofNumber? (raw % 0x80) <;> rfl
  stopped := by
    intro raw signal h hsmall hsignal
    have hbits := hasStopped_iff.1 h
    rw [stopSignal, secondByte_eq] at hsignal
    -- A stop at a system call is marked by a number that no signal has.
    have hcall : raw / 0x100 % 0x100 ≠ WaitStatus.callTrap := by
      intro hcall
      rw [hcall] at hsignal
      cases hsignal
    rw [outcome, WaitStatus.decode, if_neg (by omega), if_neg (by omega), if_pos hbits,
      if_neg hcall, if_pos (by omega), WaitStatus.Decoded.ofSignal, hsignal]
  continued := by
    intro raw h
    rw [of_decide_eq_true h]
    rfl

/-- Every word that is reported decides the wait, and for the status that its bits stand for. This
also holds where it cannot be taken apart: then a signal has killed the process. -/
theorem Reported.decides {fromRaw : Nat → WaitOutcome} (hdecodes : Decodes fromRaw)
    {mode : WaitMode} {raw : Nat} (h : Reported mode raw) :
    ∃ status, status? raw = some status ∧ (fromRaw raw).isRetried mode = false ∧
      (fromRaw raw).news = some status := by
  cases h with
  | exited code hcode =>
    have hbits : hasExited (code <<< 8) := by
      rw [hasExited_iff, Nat.shiftLeft_eq]
      omega
    rw [hdecodes.exited hbits, status?, hbits]
    exact ⟨.terminated, rfl, by cases mode <;> rfl, rfl⟩
  | killed signal hlow hhigh core =>
    have hsum : core.toNat <<< 7 ||| signal = core.toNat * 0x80 + signal := by
      rw [← Nat.shiftLeft_add_eq_or_of_lt (by omega), Nat.shiftLeft_eq]
    have hbits : wasKilled (core.toNat <<< 7 ||| signal) := by
      rw [hsum, wasKilled_iff]
      omega
    rw [hdecodes.killed hbits, ofSignal]
    refine ⟨.terminated, status?_of_killed hbits, ?_⟩
    -- Without a name for the signal the outcome is an error, and this counts as an end as well.
    cases Signal.ofNumber? _ with
    | none => exact ⟨rfl, rfl⟩
    | some s => exact ⟨by cases mode <;> rfl, rfl⟩
  | stopped signal hstop =>
    have hnumber : signal.number < 0x100 := by cases signal <;> decide
    have hsum : signal.number <<< 8 ||| 0x7F = signal.number * 0x100 + 0x7F := by
      rw [← Nat.shiftLeft_add_eq_or_of_lt (by omega), Nat.shiftLeft_eq]
    have hbits : hasStopped (signal.number <<< 8 ||| 0x7F) := by
      rw [hsum, hasStopped_iff]
      omega
    have hsignal : Signal.ofNumber? (stopSignal (signal.number <<< 8 ||| 0x7F)) = some signal := by
      have hbyte : (signal.number * 0x100 + 0x7F) / 0x100 % 0x100 = signal.number := by omega
      rw [stopSignal, secondByte_eq, hsum, hbyte, Signal.ofNumber?_number]
    rw [hdecodes.stopped hbits (by omega) hsignal]
    exact ⟨.suspended, status?_of_stopped hbits, by cases mode <;> rfl, rfl⟩
  | continued =>
    have hbits : hasContinued 0xFFFF := rfl
    rw [hdecodes.continued hbits]
    exact ⟨.running, rfl, rfl, rfl⟩

end StatusWord

namespace Shell

open StatusWord

/-- In every sequence of outcomes with one that decides the wait, a poll and a wait that blocks find
the status that the first such outcome stands for. A wait that blocks never finds that the process
runs. If the outcome is what Linux has reported of a child in a status word, then it decides the
wait, and the status is the one that the bits of the word stand for. -/
theorem wait_verdicts {fromRaw : Nat → WaitOutcome} (hdecodes : Decodes fromRaw) (pid : Pid) :
    (∀ outcomes : List WaitOutcome, (∃ o ∈ outcomes, o.isRetried .poll = false) →
      SettledBy (pollChild pid) pid .poll outcomes WaitOutcome.news) ∧
    (∀ outcomes : List WaitOutcome, (∃ o ∈ outcomes, o.isRetried .block = false) →
      SettledBy (awaitChild pid) pid .block outcomes WaitOutcome.found) ∧
    (∀ patience s t s', ¬ Runs (awaitChild pid patience) s t (.ok .running) s') ∧
    (∀ raw, Reported .poll raw → ∃ status, status? raw = some status ∧
      ∀ skipped later : List WaitOutcome, (∀ o ∈ skipped, o.isRetried .poll) →
        SettledAt (pollChild pid) pid .poll skipped (fromRaw raw) later (some status)) ∧
    (∀ raw, Reported .block raw → ∃ status, status? raw = some status ∧
      ∀ skipped later : List WaitOutcome, (∀ o ∈ skipped, o.isRetried .block) →
        SettledAt (awaitChild pid) pid .block skipped (fromRaw raw) later status) := by
  have hpoll := retries_pollChild pid
  have hawait := retries_awaitChild pid
  refine ⟨fun _ => hpoll.settledBy, fun _ => hawait.settledBy, ?_, ?_, ?_⟩
  · intro patience s t s' hruns
    obtain ⟨-, ⟨_, ⟨⟩, hover, -⟩ | ⟨⟨⟩, -⟩⟩ := runs_awaitChild hruns
    rcases hover with h | h <;> cases h
  · intro raw hreported
    obtain ⟨status, hstatus, hdecided, hnews⟩ := hreported.decides hdecodes
    refine ⟨status, hstatus, fun skipped later hskipped patience hpatience => ?_⟩
    rw [← hnews]
    exact hpoll.settles hskipped hdecided hpatience
  · intro raw hreported
    obtain ⟨status, hstatus, hdecided, hnews⟩ := hreported.decides hdecodes
    rw [WaitOutcome.news_of_decided hdecided, Option.some.injEq] at hnews
    refine ⟨status, hstatus, fun skipped later hskipped patience hpatience => ?_⟩
    rw [← hnews]
    exact hawait.settles hskipped hdecided hpatience

/-- Signal 34 has no name, so that its word cannot be taken apart. -/
theorem wait_verdicts_unnamed_signal :
    Decodes outcome ∧ outcome 34 = .error .invalid ∧ status? 34 = some .terminated ∧
      Reported .poll 34 ∧ Reported .block 34 ∧
      SettledAt (pollChild ⟨7⟩) ⟨7⟩ .poll [.error .interrupted] (.error .invalid) []
        (some .terminated) ∧
      SettledBy (pollChild ⟨7⟩) ⟨7⟩ .poll [.error .interrupted, .error .invalid]
        WaitOutcome.news ∧
      SettledAt (awaitChild ⟨7⟩) ⟨7⟩ .block [.ok .continued, .ok .stillAlive] (.error .invalid) []
        .terminated ∧
      SettledBy (awaitChild ⟨7⟩) ⟨7⟩ .block [.ok .continued, .ok (.stopped .tstp)]
        WaitOutcome.found := by
  have hreported : ∀ mode, Reported mode 34 := fun _ => .killed 34 (by decide) (by decide) false
  obtain ⟨hpolled, hawaited, -, hpoll, hawait⟩ := wait_verdicts decodes_outcome ⟨7⟩
  obtain ⟨_, ⟨⟩, hpoll⟩ := hpoll 34 (hreported .poll)
  obtain ⟨_, ⟨⟩, hawait⟩ := hawait 34 (hreported .block)
  refine ⟨decodes_outcome, rfl, rfl, hreported .poll, hreported .block, hpoll _ _ ?_,
    hpolled _ ⟨.error .invalid, ?_, rfl⟩, hawait _ _ ?_,
    hawaited _ ⟨.ok (.stopped .tstp), ?_, rfl⟩⟩
  · simp [WaitOutcome.isRetried]
  · simp
  · simp [WaitOutcome.isRetried]
  · simp

end Shell

end JobShell
