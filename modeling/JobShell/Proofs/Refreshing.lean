import JobShell.Proofs.Predictions
import JobShell.Proofs.Tally

/-!
# Refreshing

A refresh asks about the live records, one after the other, and only then has to look at the records
again: `refresh_eq` takes it apart into the reports and what `reconcile` makes of them. Main
statement: `refresh_reconciles` says which record gets which report, and that a probe that has
nothing new to say leaves a table as the refresh before has left it.
-/

namespace JobShell

/-! ## Probes -/

section Probes

variable {σ : Type} (probe : Pid → StateM σ (Option Status))

/-- What a probe reports when it is asked about processes one after the other. -/
def reports (pids : List Pid) (s : σ) : List (Option Status) := ((pids.mapM probe).run s).1

/-- The state of a probe that has been asked about processes one after the other. -/
def afterPolls (pids : List Pid) (s : σ) : σ := ((pids.mapM probe).run s).2

/-- A probe that has been asked about a process once has no more news of it. -/
def Drains (s : σ) : Prop :=
  ∀ pids pid, pid ∈ pids → ((probe pid).run (afterPolls probe pids s)).1 = none

@[simp] theorem afterPolls_nil (s : σ) : afterPolls probe [] s = s := rfl

theorem run_mapM_cons {α β : Type} (f : α → StateM σ β) (a : α) (as : List α) (s : σ) :
    ((a :: as).mapM f).run s =
      let first := (f a).run s
      let later := (as.mapM f).run first.2
      (first.1 :: later.1, later.2) := by
  rw [List.mapM_cons]
  rfl

theorem reports_cons (pid : Pid) (pids : List Pid) (s : σ) :
    reports probe (pid :: pids) s =
      ((probe pid).run s).1 :: reports probe pids ((probe pid).run s).2 := by
  rw [reports, run_mapM_cons]
  rfl

theorem afterPolls_cons (pid : Pid) (pids : List Pid) (s : σ) :
    afterPolls probe (pid :: pids) s = afterPolls probe pids ((probe pid).run s).2 := by
  rw [afterPolls, run_mapM_cons]
  rfl

theorem length_reports (pids : List Pid) (s : σ) : (reports probe pids s).length = pids.length := by
  induction pids generalizing s with
  | nil => rfl
  | cons pid pids ih => rw [reports_cons, List.length_cons, List.length_cons, ih]

theorem afterPolls_concat (pids : List Pid) (pid : Pid) (s : σ) :
    afterPolls probe (pids ++ [pid]) s = ((probe pid).run (afterPolls probe pids s)).2 := by
  induction pids generalizing s with
  | nil => rw [List.nil_append, afterPolls_cons, afterPolls_nil, afterPolls_nil]
  | cons first pids ih => rw [List.cons_append, afterPolls_cons, afterPolls_cons, ih]

variable {probe}

/-- Nothing is new about processes that have been asked about. -/
theorem Drains.reports_eq_none {s : σ} (h : Drains probe s) {asked pids : List Pid}
    (hasked : ∀ pid ∈ pids, pid ∈ asked) :
    ∀ report ∈ reports probe pids (afterPolls probe asked s), report = none := by
  induction pids generalizing asked with
  | nil => exact List.forall_mem_nil _
  | cons pid pids ih =>
    obtain ⟨hpid, hpids⟩ := List.forall_mem_cons.1 hasked
    -- The polls so far stay the past of those to come.
    have hlater := ih fun p hp => List.mem_append_left [pid] (hpids p hp)
    rw [afterPolls_concat] at hlater
    rw [reports_cons, List.forall_mem_cons]
    exact ⟨h asked pid hpid, hlater⟩

theorem run_mapM_noting (pids polled : List Pid) (s : σ) :
    (pids.mapM (Operation.noting probe)).run (polled, s) =
      (reports probe pids s, polled ++ pids, afterPolls probe pids s) := by
  induction pids generalizing polled s with
  | nil => rw [List.append_nil]; rfl
  | cons pid pids ih =>
    have hfirst : (Operation.noting probe pid).run (polled, s) =
        (((probe pid).run s).1, polled ++ [pid], ((probe pid).run s).2) := rfl
    rw [run_mapM_cons, hfirst]
    dsimp only
    rw [ih, reports_cons, afterPolls_cons, List.append_assoc, List.singleton_append]

end Probes

/-! ## Records and their reports -/

theorem Record.afterReport_eq (r : Record) (report : Option Status) :
    r.afterReport report = ⟨r.pid, r.command, report.getD r.observed, none⟩ := by
  cases report <;> rfl

/-- The live records have their numbers at their ranks among the live ones. -/
theorem getElem?_livePids {rs : List Record} {i : Nat} {r : Record} (h : rs[i]? = some r)
    (hlive : r.IsLive) : (livePids rs)[(rs.take i).countP (·.IsLive)]? = some r.pid := by
  obtain ⟨hi, rfl⟩ := List.getElem?_eq_some_iff.1 h
  have hsplit : rs = rs.take i ++ rs[i] :: rs.drop (i + 1) := by
    rw [List.getElem_cons_drop, List.take_append_drop]
  have hpids : livePids rs = livePids (rs.take i) ++ rs[i].pid :: livePids (rs.drop (i + 1)) := by
    conv => lhs; rw [hsplit]
    rw [livePids_append, livePids_cons_of_live hlive]
  rw [hpids, ← length_livePids, List.getElem?_append_right (Nat.le_refl _), Nat.sub_self,
    List.getElem?_cons_zero]

namespace Table

/-- The records after the live ones have got their reports, one each and in order. -/
def reconcile : List Record → List (Option Status) → List Record
  | [], _ => []
  | r :: rest, reports =>
    if r.IsLive then r.afterReport (reports.headD none) :: reconcile rest reports.tail
    else r.bare :: reconcile rest reports

theorem length_reconcile (rs : List Record) (reports : List (Option Status)) :
    (reconcile rs reports).length = rs.length := by
  fun_induction reconcile rs reports with
  | case1 => rfl
  | case2 r rest reports hlive ih => rw [List.length_cons, List.length_cons, ih]
  | case3 r rest reports hdead ih => rw [List.length_cons, List.length_cons, ih]

theorem getElem?_reconcile {rs : List Record} {i : Nat} {r : Record} (h : rs[i]? = some r)
    (reports : List (Option Status)) :
    (reconcile rs reports)[i]? =
      some (if r.IsLive then r.afterReport (reports.getD ((rs.take i).countP (·.IsLive)) none)
        else r.bare) := by
  fun_induction reconcile rs reports generalizing i with
  | case1 => cases h
  | case2 first rest reports hlive ih =>
    cases i with
    | zero =>
      cases h
      rw [if_pos hlive]
      cases reports <;> rfl
    | succ i =>
      rw [List.getElem?_cons_succ, ih h, List.take_succ_cons,
        List.countP_cons_of_pos (p := fun r : Record => r.IsLive) (decide_eq_true hlive)]
      cases reports <;> rfl
  | case3 first rest reports hdead ih =>
    cases i with
    | zero =>
      cases h
      rw [if_neg hdead]
      rfl
    | succ i =>
      rw [List.getElem?_cons_succ, ih h, List.take_succ_cons,
        List.countP_cons_of_neg (p := fun r : Record => r.IsLive) (by simpa using hdead)]

/-- A dead record never comes back to life. -/
theorem livePids_reconcile_sublist (rs : List Record) (reports : List (Option Status)) :
    (livePids (reconcile rs reports)).Sublist (livePids rs) := by
  fun_induction reconcile rs reports with
  | case1 => exact .slnil
  | case2 r rest reports hlive ih =>
    have hpid : (r.afterReport (reports.headD none)).pid = r.pid := by rw [Record.afterReport_eq]
    rw [livePids_cons_of_live hlive]
    by_cases hlive' : (r.afterReport (reports.headD none)).IsLive
    · rw [livePids_cons_of_live hlive', hpid]
      exact ih.cons_cons _
    · rw [livePids_cons_of_dead hlive']
      exact ih.cons _
  | case3 r rest reports hdead ih =>
    have hdead' : ¬ r.bare.IsLive := hdead
    rw [livePids_cons_of_dead hdead, livePids_cons_of_dead hdead']
    exact ih

/-- Where nothing is expected and nothing reported, nothing changes. -/
theorem reconcile_eq_self {rs : List Record} {reports : List (Option Status)}
    (hrs : ∀ r ∈ rs, r.predicted = none) (hreports : ∀ report ∈ reports, report = none) :
    reconcile rs reports = rs := by
  have hbare : ∀ r : Record, r.predicted = none → r.bare = r := by
    rintro ⟨pid, command, observed, predicted⟩ rfl
    rfl
  fun_induction reconcile rs reports with
  | case1 => rfl
  | case2 r rest reports hlive ih =>
    obtain ⟨hr, hrest⟩ := List.forall_mem_cons.1 hrs
    have hhead : reports.headD none = none := by
      cases reports with
      | nil => rfl
      | cons report later => exact hreports report List.mem_cons_self
    rw [ih hrest fun report h => hreports report (List.mem_of_mem_tail h), hhead]
    exact congrArg (· :: rest) (hbare r hr)
  | case3 r rest reports hdead ih =>
    obtain ⟨hr, hrest⟩ := List.forall_mem_cons.1 hrs
    rw [ih hrest hreports, hbare r hr]

/-! ## Refreshing -/

/-- Whatever news is made of, it is asked for first and written down afterwards. -/
theorem refreshRecords_eq {m : Type → Type} [Monad m] [LawfulMonad m]
    (poll : Pid → m (Option Status)) (rs : List Record) :
    refreshRecords poll rs = reconcile rs <$> (livePids rs).mapM poll := by
  induction rs with
  | nil => simp [refreshRecords, livePids, reconcile]
  | cons r rest ih =>
    rw [refreshRecords, refreshRecord, ih]
    by_cases hlive : r.IsLive
    · rw [livePids_cons_of_live hlive, if_neg hlive]
      simp [reconcile, hlive]
    · rw [livePids_cons_of_dead hlive, if_pos (not_not.1 hlive)]
      simp [reconcile, hlive, Record.bare]

theorem refresh_eq {m : Type → Type} [Monad m] [LawfulMonad m] (poll : Pid → m (Option Status))
    (t : Table) :
    t.refresh poll = (fun reports => ⟨reconcile t.records reports⟩) <$>
      (livePids t.records).mapM poll := by
  rw [refresh, refreshRecords_eq]
  simp

section

variable {σ : Type} (probe : Pid → StateM σ (Option Status)) (t : Table) (s : σ)

theorem run_refresh :
    (t.refresh probe).run s =
      (⟨reconcile t.records (reports probe (livePids t.records) s)⟩,
        afterPolls probe (livePids t.records) s) := by
  rw [refresh_eq]
  rfl

/-- A probe that makes a note of each poll goes the same way. -/
theorem run_refresh_noting (polled : List Pid) :
    (t.refresh (Operation.noting probe)).run (polled, s) =
      (((t.refresh probe).run s).1, polled ++ livePids t.records, ((t.refresh probe).run s).2) := by
  rw [run_refresh probe, run_refresh (Operation.noting probe)]
  unfold reports afterPolls
  rw [run_mapM_noting]
  rfl

/-- A refresh without news leaves a table without predictions as it is. -/
theorem run_refresh_of_no_news {t : Table} (hpredicted : ∀ r ∈ t.records, r.predicted = none)
    (hnews : ∀ report ∈ reports probe (livePids t.records) s, report = none) :
    (t.refresh probe).run s = (t, afterPolls probe (livePids t.records) s) := by
  rw [run_refresh, reconcile_eq_self hpredicted hnews]

/-- What becomes of the table `t` when it is refreshed. -/
structure Reconciles (t' : Table) (s' : σ) : Prop where
  /-- The live records are polled, the newest first, and the probe goes through nothing else. -/
  polled : (t.refresh (Operation.noting probe)).run ([], s) = (t', livePids t.records, s')
  probed : s' = afterPolls probe (livePids t.records) s
  length : t'.records.length = t.records.length
  /-- A live record has a poll of its own, at its rank among the live ones, and what is reported
  then is what has been observed. -/
  live : ∀ (i : Nat) (r : Record), t.records[i]? = some r → r.IsLive →
    ∃ report, (livePids t.records)[(t.records.take i).countP (·.IsLive)]? = some r.pid ∧
      (reports probe (livePids t.records) s)[(t.records.take i).countP (·.IsLive)]? =
        some report ∧
      t'.records[i]? = some ⟨r.pid, r.command, report.getD r.observed, none⟩
  /-- A dead record is not polled, and all that may change is that nothing more is expected. -/
  dead : ∀ (i : Nat) (r : Record), t.records[i]? = some r → ¬ r.IsLive →
    t'.records[i]? = some ⟨r.pid, r.command, r.observed, none⟩
  /-- If the probe has had nothing to keep back, then a second refresh changes nothing. -/
  again : Drains probe s → ((t'.refresh probe).run s').1 = t'

/-- A refresh gives each live record a report of its own, whatever numbers they share, leaves
nothing that is only expected, and does not have to be repeated. -/
theorem refresh_reconciles :
    Reconciles probe t s ((t.refresh probe).run s).1 ((t.refresh probe).run s).2 where
  polled := by rw [run_refresh_noting, List.nil_append]
  probed := by rw [run_refresh]
  length := by
    rw [run_refresh]
    exact length_reconcile ..
  live i r hr hlive := by
    have hpid := getElem?_livePids hr hlive
    obtain ⟨hlt, -⟩ := List.getElem?_eq_some_iff.1 hpid
    rw [← length_reports probe _ s] at hlt
    refine ⟨_, hpid, List.getElem?_eq_getElem hlt, ?_⟩
    rw [run_refresh, getElem?_reconcile hr, if_pos hlive, Record.afterReport_eq,
      List.getD_eq_getElem?_getD, List.getElem?_eq_getElem hlt]
    rfl
  dead i r hr hdead := by
    rw [run_refresh, getElem?_reconcile hr, if_neg hdead]
    rfl
  again hdrains := by
    have hpredicted := predicted_eq_none_of_settles (t.settles_refresh probe s)
    -- A record that is still live was live before, so that its number has been asked about.
    have hasked := (livePids_reconcile_sublist t.records
      (reports probe (livePids t.records) s)).subset
    have hnews : ∀ report ∈ reports probe (livePids ((t.refresh probe).run s).1.records)
        ((t.refresh probe).run s).2, report = none := by
      rw [run_refresh]
      exact hdrains.reports_eq_none hasked
    rw [run_refresh_of_no_news probe _ hpredicted hnews]

end

end Table

/-! ### An example

Two live records share a number, and a dead one is expected to be running. -/

namespace Scripted

/-- A probe with reports that are still to be given. It gives away the first about a process, and
drops the others. -/
def probe (pid : Pid) : StateM (List (Pid × Status)) (Option Status) := fun pending =>
  (pending.lookup pid, pending.filter (·.1 ≠ pid))

theorem afterPolls_eq (pids : List Pid) (pending : List (Pid × Status)) :
    afterPolls probe pids pending = pending.filter (·.1 ∉ pids) := by
  induction pids generalizing pending with
  | nil => simp
  | cons pid pids ih =>
    rw [afterPolls_cons, ih]
    show (pending.filter _).filter _ = _
    rw [List.filter_filter]
    refine List.filter_congr fun x _ => ?_
    simp [Bool.and_comm]

theorem drains (pending : List (Pid × Status)) : Drains probe pending := by
  intro pids pid hpid
  rw [afterPolls_eq]
  show (pending.filter _).lookup pid = none
  refine List.lookup_eq_none_iff.2 fun x hx => ?_
  have hnot : x.1 ∉ pids := by simpa using (List.mem_filter.1 hx).2
  have hne : pid ≠ x.1 := fun h => hnot (h ▸ hpid)
  simpa using hne

def table : Table :=
  ⟨[⟨⟨7⟩, .ofArguments ["a"], .running, some .suspended⟩,
    ⟨⟨8⟩, .ofArguments ["b"], .terminated, some .running⟩,
    ⟨⟨7⟩, .ofArguments ["c"], .suspended, none⟩]⟩

/-- The newer record takes the report that may have been meant for the older one. -/
def refreshed : Table :=
  ⟨[⟨⟨7⟩, .ofArguments ["a"], .terminated, none⟩, ⟨⟨8⟩, .ofArguments ["b"], .terminated, none⟩,
    ⟨⟨7⟩, .ofArguments ["c"], .suspended, none⟩]⟩

end Scripted

theorem refresh_reconciles_shared :
    Drains Scripted.probe [(⟨7⟩, .terminated)] ∧
      (Scripted.table.refresh (Operation.noting Scripted.probe)).run ([], [(⟨7⟩, .terminated)]) =
        (Scripted.refreshed, [⟨7⟩, ⟨7⟩], []) ∧
      ((Scripted.refreshed.refresh Scripted.probe).run []).1 = Scripted.refreshed := by
  have hdrains := Scripted.drains [(⟨7⟩, .terminated)]
  have hreconciles := Table.refresh_reconciles Scripted.probe Scripted.table [(⟨7⟩, .terminated)]
  exact ⟨hdrains, hreconciles.polled, hreconciles.again hdrains⟩

end JobShell
