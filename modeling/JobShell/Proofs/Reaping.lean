import JobShell.Proofs.Children
import JobShell.Proofs.Tally
import JobShell.Wait

/-!
# Reaping

What the two ways of waiting, and looking at every process again, do to the children and to the
table. Main statement: a listing polls each live record once, drops those whose processes turn out
to be dead, and leaves a table that tallies with the children that are left
(`ensures_listAndReap`).
-/

namespace JobShell

namespace Shell

open Children

variable {children : Finset Pid} {pid : Pid} {s : Session}

/-- Waiting for a child fails because of an interruption, and then it begins again, or with a
report of its end, and then it is over. -/
theorem ensures_failedWait {α : Type} {mode : WaitMode} {e : Errno} {again : Shell α} {a : α}
    {event : Log.Event} {Q : Finset Pid → Session → Trace → Except Failure α → Prop}
    (hanswer : e = .interrupted ∨ e = .invalid)
    (hagain : e = .interrupted → Ensures monitor Q again children s)
    (hdead : e = .invalid → Q (children.erase pid) s [⟨.log event, ()⟩] (.ok a)) :
    Ensures monitor Q (if e = .interrupted then again else do log event; return a)
      (monitor.step children (.wait pid mode) (.error e)) s := by
  rcases hanswer with rfl | rfl
  · exact hagain rfl
  · rw [if_neg (by decide), log, ensures_ask_bind]
    refine ⟨trivial, fun _ _ => ?_⟩
    rw [ensures_pure]
    exact hdead rfl

/-- A poll finds out what became of a child, and takes the child away if it has ended. -/
theorem ensures_pollChild (hpid : pid ∈ children) (patience : Nat) :
    Ensures monitor (fun children' s' t r => ∃ status, r = .ok status ∧
      children' = seen children pid status ∧ s' = s ∧ t.launched = [] ∧ t.polled = [pid])
      (pollChild pid patience) children s := by
  induction patience with
  | zero => exact (ensures_throw ..).2 fun h => absurd rfl h
  | succ patience ih =>
    rw [pollChild, ensures_ask_bind]
    refine ⟨hpid, fun answer hanswer => ?_⟩
    rcases answer with e | outcome
    · refine ensures_failedWait (hanswer hpid) ?_ ?_
      · intro h
        subst h
        exact ih
      · intro h
        subst h
        exact ⟨_, rfl, rfl, rfl, rfl, rfl⟩
    · rw [ensures_pure]
      exact ⟨_, rfl, step_wait_ok children pid .poll outcome, rfl, rfl, rfl⟩

/-- A child is waited for until it has ended or stopped. -/
theorem ensures_awaitChild (hpid : pid ∈ children) (patience : Nat) :
    Ensures monitor (fun children' s' t r => ∃ status, r = .ok status ∧
      children' = seen children pid (some status) ∧ s' = s ∧ t.launched = [] ∧ t.polled = [])
      (awaitChild pid patience) children s := by
  induction patience with
  | zero => exact (ensures_throw ..).2 fun h => absurd rfl h
  | succ patience ih =>
    rw [awaitChild, ensures_ask_bind]
    refine ⟨hpid, fun answer hanswer => ?_⟩
    rcases answer with e | outcome
    · refine ensures_failedWait (hanswer hpid) (fun _ => ih) fun _ => ?_
      exact ⟨_, rfl, rfl, rfl, rfl, rfl⟩
    · have hstep := step_wait_ok children pid .block outcome
      dsimp only
      -- News that the child goes on, or none, leaves it a child, and the wait begins again.
      rcases hstatus : outcome.status? with _ | _ | _ | _ <;> rw [hstatus] at hstep <;> rw [hstep]
      · exact ih
      · exact ih
      · exact (ensures_pure ..).2 ⟨_, rfl, rfl, rfl, rfl, rfl⟩
      · exact (ensures_pure ..).2 ⟨_, rfl, rfl, rfl, rfl, rfl⟩

/-! ## Looking at every process again -/

variable {settings : Settings}

/-- What asking for news of the process of one record does: a live record is polled, and then it is
live exactly if its process is still a child. No other child is touched. -/
structure Asked (r : Record) (children children' : Finset Pid) (t : Trace) (r' : Record) :
    Prop where
  follows : r.Follows r'
  settled : r'.predicted = none
  polled : t.polled = if r.IsLive then [r.pid] else []
  launched : t.launched = []
  live : r'.IsLive ↔ r.IsLive ∧ r.pid ∈ children'
  others : ∀ pid, (r.IsLive → pid ≠ r.pid) → (pid ∈ children' ↔ pid ∈ children)

theorem Asked.of_dead {r : Record} (h : ¬ r.IsLive) :
    Asked r children children [] { r with predicted := none } where
  follows := ⟨rfl, rfl, id⟩
  settled := rfl
  polled := (if_neg h).symm
  launched := rfl
  live := iff_of_false h fun hr => h hr.1
  others := fun _ _ => Iff.rfl

theorem Asked.of_poll {r : Record} {t : Trace} (hlive : r.IsLive) (hpid : r.pid ∈ children)
    (status : Option Status) (hlaunched : t.launched = []) (hpolled : t.polled = [r.pid]) :
    Asked r children (seen children r.pid status) t (r.afterReport status) where
  follows := by
    refine ⟨?_, ?_, fun hdead => absurd hdead hlive⟩ <;> cases status <;> rfl
  settled := by cases status <;> rfl
  polled := hpolled.trans (if_pos hlive).symm
  launched := hlaunched
  live := by
    rcases status with _ | status
    · exact iff_of_true hlive ⟨hlive, hpid⟩
    · by_cases h : status = .terminated
      · subst h
        refine iff_of_false (fun hlive' => hlive' rfl) fun hmem => ?_
        exact Finset.notMem_erase r.pid children hmem.2
      · refine iff_of_true h ⟨hlive, ?_⟩
        rw [seen, if_neg (by simpa using h)]
        exact hpid
  others := by
    intro pid hne
    rw [seen]
    split
    · rw [Finset.mem_erase, and_iff_right (hne hlive)]
    · rfl

theorem ensures_refreshRecord (hprobe : settings.probe = .children) {r : Record}
    (hr : r.IsLive → r.pid ∈ children) :
    Ensures monitor (fun children' s' t x =>
        s' = s ∧ ∃ r', x = .ok r' ∧ Asked r children children' t r')
      (Table.refreshRecord (poll settings) r) children s := by
  rw [Table.refreshRecord]
  split
  next hdead =>
    rw [ensures_pure]
    exact ⟨rfl, _, rfl, .of_dead fun hlive => hlive hdead⟩
  next hlive =>
    rw [poll, hprobe]
    refine (ensures_pollChild (hr hlive) settings.patience).bind ?_ fun _ _ _ _ ⟨_, h, _⟩ => nomatch h
    intro children' s' t status h
    obtain ⟨_, ⟨⟩, rfl, rfl, hlaunched, hpolled⟩ := h
    refine (ensures_pure ..).2 ⟨rfl, _, rfl, ?_⟩
    rw [List.append_nil]
    exact .of_poll hlive (hr hlive) status hlaunched hpolled

/-- What looking at records again does, where the children in `claimed` belong to newer records:
each live record is polled once, and the records tally as they did before. -/
structure Refreshed (claimed : Finset Pid) (rs : List Record) (children left : Finset Pid)
    (t : Trace) (rs' : List Record) : Prop where
  tallies : Tallies (left \ claimed) rs'
  follows : List.Forall₂ Record.Follows rs rs'
  settled : ∀ r ∈ rs', r.predicted = none
  polled : t.polled = livePids rs
  launched : t.launched = []
  others : ∀ pid ∈ claimed, pid ∈ left ↔ pid ∈ children

theorem Refreshed.cons {claimed children₁ children₂ : Finset Pid} {r r' : Record}
    {rest rest' : List Record} {t u : Trace} (hr : r.IsLive ↔ r.pid ∈ children \ claimed)
    (hfirst : Asked r children children₁ t r')
    (hrest : Refreshed (insert r.pid claimed) rest children₁ children₂ u rest') :
    Refreshed claimed (r :: rest) children children₂ (t ++ u) (r' :: rest') where
  tallies := by
    rw [Tallies, hfirst.follows.pid, ← Finset.sdiff_insert]
    refine ⟨?_, hrest.tallies⟩
    have hlater := hrest.others r.pid (Finset.mem_insert_self ..)
    have hearlier := hfirst.others r.pid
    rw [Finset.mem_sdiff] at hr ⊢
    rw [hfirst.live, hlater]
    -- The records behind this one leave its number alone, so all depends on its own poll.
    by_cases hlive : r.IsLive
    · simp [hlive, (hr.1 hlive).2]
    · rw [hearlier fun h => absurd h hlive]
      grind
  follows := .cons hfirst.follows hrest.follows
  settled := by
    intro r₁ hmem
    rcases List.mem_cons.1 hmem with rfl | hmem
    · exact hfirst.settled
    · exact hrest.settled r₁ hmem
  polled := by
    rw [Trace.polled_append, hfirst.polled, hrest.polled]
    by_cases hlive : r.IsLive
    · rw [livePids_cons_of_live hlive, if_pos hlive, List.singleton_append]
    · rw [livePids_cons_of_dead hlive, if_neg hlive, List.nil_append]
  launched := by rw [Trace.launched_append, hfirst.launched, hrest.launched, List.append_nil]
  others := by
    intro pid hpid
    rw [hrest.others pid (Finset.mem_insert_of_mem hpid)]
    refine hfirst.others pid fun hlive heq => ?_
    subst heq
    exact (Finset.mem_sdiff.1 (hr.1 hlive)).2 hpid

theorem ensures_refreshRecords (hprobe : settings.probe = .children) {claimed : Finset Pid}
    {rs : List Record} (h : Tallies (children \ claimed) rs) :
    Ensures monitor (fun children' s' t x =>
        s' = s ∧ ∃ rs', x = .ok rs' ∧ Refreshed claimed rs children children' t rs')
      (Table.refreshRecords (poll settings) rs) children s := by
  induction rs generalizing claimed children with
  | nil => exact (ensures_pure ..).2 ⟨rfl, [], rfl, trivial, .nil, nofun, rfl, rfl, fun _ _ => .rfl⟩
  | cons r rest ih =>
    rw [Table.refreshRecords]
    have hr : r.IsLive → r.pid ∈ children := fun hlive => (Finset.mem_sdiff.1 (h.1.1 hlive)).1
    refine (ensures_refreshRecord hprobe hr).bind ?_ fun _ _ _ _ ⟨_, _, h, _⟩ => nomatch h
    intro children₁ s₁ t r' h
    obtain ⟨rfl, _, ⟨⟩, hfirst⟩ := h
    -- The first record claims its number, whether or not its process has ended just now.
    have hrest : Tallies (children₁ \ insert r.pid claimed) rest := by
      have hpids : children₁ \ insert r.pid claimed = (children \ claimed).erase r.pid := by
        ext pid
        have hother := hfirst.others pid
        grind
      rw [hpids]
      exact h.2
    refine (ih hrest).bind ?_ fun _ _ _ _ ⟨_, _, h, _⟩ => nomatch h
    intro children₂ s₂ u rest' h
    obtain ⟨rfl, _, ⟨⟩, hrest⟩ := h
    refine (ensures_pure ..).2 ⟨rfl, _, rfl, ?_⟩
    rw [List.append_nil]
    exact .cons h.1 hfirst hrest

/-- Logging which processes are dead changes nothing and cannot fail. -/
theorem ensures_logDead (entries : List Entry) :
    Ensures monitor (fun children' s' t x =>
        children' = children ∧ s' = s ∧ t.launched = [] ∧ t.polled = [] ∧ x = .ok ⟨⟩)
      (forIn entries PUnit.unit fun e _ =>
        if e.status = .terminated then do
          log (.reaping e.pid)
          pure (.yield ⟨⟩)
        else
          pure (.yield ⟨⟩)) children s := by
  induction entries with
  | nil => exact (ensures_pure ..).2 ⟨rfl, rfl, rfl, rfl, rfl⟩
  | cons e entries ih =>
    rw [List.forIn_cons]
    split
    · rw [bind_assoc]
      refine ensures_ask_bind.2 ⟨trivial, fun _ _ => ?_⟩
      exact ih
    · exact ih

theorem ensures_tableRefresh (hprobe : settings.probe = .children) {table : Table}
    (h : Tallies children table.records) :
    Ensures monitor (fun children' s' t x =>
        s' = s ∧ ∃ rs, x = .ok ⟨rs⟩ ∧ Refreshed ∅ table.records children children' t rs)
      (table.refresh (poll settings)) children s := by
  rw [← Finset.sdiff_empty (s := children)] at h
  refine (ensures_refreshRecords hprobe h).bind ?_ fun _ _ _ _ ⟨_, _, h, _⟩ => nomatch h
  intro children' s' t rs h
  obtain ⟨rfl, _, ⟨⟩, hrefreshed⟩ := h
  refine (ensures_pure ..).2 ⟨rfl, rs, rfl, ?_⟩
  rw [List.append_nil]
  exact hrefreshed

theorem ensures_tableListAndReap (hprobe : settings.probe = .children) {table : Table}
    (h : Tallies children table.records) :
    Ensures monitor (fun children' s' t x => s' = s ∧
        ∃ rs, x = .ok (Table.entries ⟨rs⟩, Table.reap ⟨rs⟩) ∧
          Refreshed ∅ table.records children children' t rs)
      (table.listAndReap (poll settings)) children s := by
  show Ensures monitor _ (table.refresh (poll settings) >>= fun _ => pure _) _ _
  refine (ensures_tableRefresh hprobe h).bind ?_ fun _ _ _ _ ⟨_, _, h, _⟩ => nomatch h
  intro children' s' t _ h
  obtain ⟨rfl, rs, ⟨⟩, hrefreshed⟩ := h
  refine (ensures_pure ..).2 ⟨rfl, rs, rfl, ?_⟩
  rw [List.append_nil]
  exact hrefreshed

/-- Listing polls each live record once, and what stays in the table are the records that are live
after that. -/
theorem ensures_listAndReap (hprobe : settings.probe = .children)
    (h : Tallies children s.table.records) :
    Ensures monitor (fun children' s' t x => (∃ entries, x = .ok entries) ∧
        ∃ rs, Refreshed ∅ s.table.records children children' t rs ∧
          s'.table.records = rs.filter (·.IsLive))
      (listAndReap settings) children s := by
  rw [listAndReap, ensures_bind, ensures_get]
  refine (ensures_tableListAndReap hprobe h).bind ?_ fun _ _ _ _ ⟨_, _, h, _⟩ => nomatch h
  intro children₁ s₁ t _ h
  obtain ⟨rfl, rs, ⟨⟩, hrefreshed⟩ := h
  refine (ensures_logDead _).bind ?_ fun _ _ _ _ ⟨_, _, _, _, h⟩ => nomatch h
  intro _ _ u _ h
  obtain ⟨rfl, rfl, hlaunched, hpolled, -⟩ := h
  rw [ensures_bind, ensures_modifyTable]
  refine (ensures_pure ..).2 ⟨⟨_, rfl⟩, rs, ?_, Table.records_reap hrefreshed.settled⟩
  exact { hrefreshed with
    polled := by simpa [hpolled] using hrefreshed.polled
    launched := by simpa [hlaunched] using hrefreshed.launched }

end Shell

end JobShell
