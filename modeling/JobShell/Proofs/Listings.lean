import JobShell.Proofs.Refreshing

/-!
# Listings

A listing shows every record once, as it is after a refresh, and then drops those that it has shown
as dead. So the next listing, if there is no news until then, shows what is left of this one:
`renumber` gives the lines that stay their new numbers. Main statement: `listAndReap_lists`.
-/

namespace JobShell

namespace Record

/-- The record as a line of a listing. -/
def line (r : Record) (index : Nat) : Entry := ⟨index, r.pid, r.command.first.arguments, r.status⟩

theorem line_eq {r : Record} (h : r.predicted = none) (index : Nat) :
    r.line index = ⟨index, r.pid, r.command.first.arguments, r.observed⟩ := by
  rw [line, status, h]
  rfl

end Record

/-- Lines of a listing, numbered from zero. -/
def renumber (entries : List Entry) : List Entry :=
  entries.mapIdx fun i entry => { entry with index := i }

namespace Table

theorem getElem?_entries {t : Table} {i : Nat} {r : Record} (h : t.records[i]? = some r) :
    t.entries[i]? = some (r.line i) := by
  rw [entries, List.getElem?_mapIdx, h]
  rfl

theorem length_entries (t : Table) : t.entries.length = t.records.length := by
  rw [entries, List.length_mapIdx]

/-- Where a line stands does not decide whether it stays, and it forgets its number if it does. -/
theorem renumber_filter (rs : List Record) (old new : Nat → Nat) :
    ((rs.mapIdx fun i r => r.line (old i)).filter (·.status ≠ .terminated)).mapIdx
        (fun i entry => { entry with index := new i }) =
      (rs.filter (·.status ≠ .terminated)).mapIdx fun i r => r.line (new i) := by
  induction rs generalizing old new with
  | nil => rfl
  | cons r rest ih =>
    rw [List.mapIdx_cons, List.filter_cons, List.filter_cons]
    have hstatus : (r.line (old 0)).status = r.status := rfl
    rw [hstatus]
    split
    · rw [List.mapIdx_cons, List.mapIdx_cons, ih fun i => old (i + 1)]
      rfl
    · exact ih (fun i => old (i + 1)) new

/-- What is left of a table has the lines that are left of its listing. -/
theorem entries_reap (t : Table) :
    t.reap.entries = renumber (t.entries.filter (·.status ≠ .terminated)) :=
  (renumber_filter t.records id id).symm

section

variable {σ : Type} (probe : Pid → StateM σ (Option Status)) (t : Table) (s : σ)

theorem run_listAndReap :
    (t.listAndReap probe).run s =
      let refreshed := (t.refresh probe).run s
      ((refreshed.1.entries, refreshed.1.reap), refreshed.2) := rfl

theorem run_listAndReap_noting (polled : List Pid) :
    (t.listAndReap (Operation.noting probe)).run (polled, s) =
      let refreshed := (t.refresh probe).run s
      ((refreshed.1.entries, refreshed.1.reap), polled ++ livePids t.records, refreshed.2) := by
  rw [run_listAndReap, run_refresh_noting]

theorem livePids_eq_pids {t : Table} (h : ∀ r ∈ t.records, r.IsLive) :
    livePids t.records = t.pids := by
  rw [livePids, List.filter_eq_self.2 fun r hr => decide_eq_true (h r hr)]
  rfl

/-- A listing without news of a table that holds nothing dead and nothing only expected. -/
theorem run_listAndReap_of_no_news {t : Table}
    (hlive : ∀ r ∈ t.records, r.IsLive ∧ r.predicted = none)
    (hnews : ∀ report ∈ reports probe t.pids s, report = none) :
    (t.listAndReap (Operation.noting probe)).run ([], s) =
      ((t.entries, t), t.pids, afterPolls probe t.pids s) := by
  have hpredicted : ∀ r ∈ t.records, r.predicted = none := fun r hr => (hlive r hr).2
  have hpids : livePids t.records = t.pids := livePids_eq_pids fun r hr => (hlive r hr).1
  have hkept : t.reap = t := by
    have hrecords := records_reap hpredicted
    rw [List.filter_eq_self.2 fun r hr => decide_eq_true (hlive r hr).1] at hrecords
    exact congrArg Table.mk hrecords
  rw [← hpids] at hnews
  rw [run_listAndReap_noting, run_refresh_of_no_news probe s hpredicted hnews]
  dsimp only
  rw [hkept, hpids, List.nil_append]

/-- What a listing of the table `t` comes to, where `seen` is the table when it has been
refreshed. -/
structure Lists (seen : Table) (entries : List Entry) (remaining : Table) (s' : σ) : Prop where
  refreshed : (t.refresh probe).run s = (seen, s')
  polled : (t.listAndReap (Operation.noting probe)).run ([], s) =
    ((entries, remaining), livePids t.records, s')
  settled : List.Forall₂ Record.Settles t.records seen.records
  length : entries.length = t.records.length
  /-- Every record has its line at its place, with what has been observed of it. -/
  entry : ∀ (i : Nat) (r : Record), seen.records[i]? = some r →
    entries[i]? = some ⟨i, r.pid, r.command.first.arguments, r.observed⟩
  kept : remaining.records = seen.records.filter (·.observed ≠ .terminated)
  alive : ∀ r ∈ remaining.records, r.observed ≠ .terminated ∧ r.predicted = none
  /-- The next listing, with any probe that has no news, asks about what is left, shows the lines of
  this one that are left, and drops nothing more. -/
  again : ∀ {τ : Type} (quiet : Pid → StateM τ (Option Status)) (u : τ),
    (∀ report ∈ reports quiet remaining.pids u, report = none) →
      (remaining.listAndReap (Operation.noting quiet)).run ([], u) =
        ((renumber (entries.filter (·.status ≠ .terminated)), remaining), remaining.pids,
          afterPolls quiet remaining.pids u)

/-- A listing shows every record once and drops exactly the dead ones, whatever numbers the records
share, whatever has been expected of them, and whatever is reported. -/
theorem listAndReap_lists :
    let refreshed := (t.refresh probe).run s
    let listed := (t.listAndReap probe).run s
    Lists probe t s refreshed.1 listed.1.1 listed.1.2 listed.2 := by
  intro refreshed listed
  have hsettled := t.settles_refresh probe s
  have hpredicted : ∀ r ∈ refreshed.1.records, r.predicted = none :=
    predicted_eq_none_of_settles hsettled
  have hkept : listed.1.2.records = refreshed.1.records.filter (·.IsLive) :=
    records_reap hpredicted
  have halive : ∀ r ∈ listed.1.2.records, r.IsLive ∧ r.predicted = none := by
    intro r hr
    rw [hkept, List.mem_filter] at hr
    exact ⟨of_decide_eq_true hr.2, hpredicted r hr.1⟩
  refine ⟨rfl, ?_, hsettled, ?_, fun i r hr => ?_, hkept, halive, fun quiet u hnews => ?_⟩
  · rw [run_listAndReap_noting, List.nil_append]
    rfl
  · show refreshed.1.entries.length = _
    rw [length_entries, ← hsettled.length_eq]
  · show refreshed.1.entries[i]? = _
    rw [getElem?_entries hr, Record.line_eq (hpredicted r (List.mem_of_getElem? hr))]
  · rw [run_listAndReap_of_no_news quiet u halive hnews]
    show ((refreshed.1.reap.entries, _), _) = _
    rw [entries_reap]
    rfl

end

end Table

/-! ### An example

The first record turns out to be dead, and so does one between others. -/

namespace Scripted

def jobs : Table :=
  ⟨[⟨⟨13⟩, .ofArguments ["a"], .running, none⟩, ⟨⟨12⟩, .ofArguments ["b"], .running, none⟩,
    ⟨⟨11⟩, .ofArguments ["c"], .suspended, some .running⟩,
    ⟨⟨10⟩, .ofArguments ["d"], .running, some .terminated⟩]⟩

def news : List (Pid × Status) := [(⟨11⟩, .terminated), (⟨13⟩, .terminated)]

def survivors : Table :=
  ⟨[⟨⟨12⟩, .ofArguments ["b"], .running, none⟩, ⟨⟨10⟩, .ofArguments ["d"], .running, none⟩]⟩

end Scripted

theorem listAndReap_lists_jobs :
    (Scripted.jobs.listAndReap (Operation.noting Scripted.probe)).run ([], Scripted.news) =
        (([⟨0, ⟨13⟩, ["a"], .terminated⟩, ⟨1, ⟨12⟩, ["b"], .running⟩,
          ⟨2, ⟨11⟩, ["c"], .terminated⟩, ⟨3, ⟨10⟩, ["d"], .running⟩], Scripted.survivors),
          [⟨13⟩, ⟨12⟩, ⟨11⟩, ⟨10⟩], []) ∧
      (∀ report ∈ reports Scripted.probe Scripted.survivors.pids [], report = none) ∧
      (Scripted.survivors.listAndReap (Operation.noting Scripted.probe)).run ([], []) =
        (([⟨0, ⟨12⟩, ["b"], .running⟩, ⟨1, ⟨10⟩, ["d"], .running⟩], Scripted.survivors),
          [⟨12⟩, ⟨10⟩], []) := by
  have hlists := Table.listAndReap_lists Scripted.probe Scripted.jobs Scripted.news
  have hnews : ∀ report ∈ reports Scripted.probe Scripted.survivors.pids [], report = none := by
    decide
  exact ⟨hlists.polled, hnews, hlists.again Scripted.probe [] hnews⟩

end JobShell
