import JobShell.Proofs.Growth
import JobShell.Proofs.Lifetimes
import Mathlib.Data.Nat.Find

/-!
# The roster

The roster of a shell is what its table ought to be about: the processes launched and not yet listed
as dead, newest first. It depends only on what each line did, which is a `Deed`. Main statement: the
table is about the processes of the roster between any two lines, and a listing has one line for
each of them; so a process is in the table, and in every listing, from its launch until it has been
listed as dead (`listed_until_dead`).
-/

namespace JobShell

/-! ## Jobs -/

/-- A process that was launched. Its rank says how many were launched before it, so no two jobs
share it, while the system may give a number to several. -/
structure Job where
  rank : Nat
  pid : Pid
  command : Command
  deriving DecidableEq

/-- What the record of a job is about. -/
def Job.subject (job : Job) : Pid × Command := (job.pid, job.command)

/-- What a line does to the processes. -/
inductive Deed where
  /-- Makes processes, perhaps none, the oldest first. -/
  | launches (births : List (Pid × Command))
  /-- Lists all processes, each with the status that it is found in. -/
  | lists (statuses : List Status)
  /-- Forgets all processes. -/
  | quits

/-- How many processes have been launched, and those of them that are still kept, newest first. -/
structure Roster where
  launched : Nat
  jobs : List Job

namespace Roster

/-- Nothing has been launched. -/
def empty : Roster := ⟨0, []⟩

/-- The roster after one process has been made. -/
def launch (R : Roster) (birth : Pid × Command) : Roster :=
  ⟨R.launched + 1, ⟨R.launched, birth.1, birth.2⟩ :: R.jobs⟩

/-- The roster after a line. -/
def after (R : Roster) : Deed → Roster
  | .launches births => births.foldl launch R
  | .lists statuses => ⟨R.launched, Table.select (statuses.map (· ≠ .terminated)) R.jobs⟩
  | .quits => ⟨R.launched, []⟩

/-- The roster after the first `n` lines. -/
def upTo (deeds : List Deed) (n : Nat) : Roster := (deeds.take n).foldl after empty

/-- What a listing says about a job. -/
def shown (R : Roster) (job : Job) (statuses : List Status) : List Status :=
  ((R.jobs.zip statuses).filter (·.1 = job)).map (·.2)

/-- The lines of a listing. -/
def listing (R : Roster) (statuses : List Status) : List Entry :=
  (R.jobs.zip statuses).mapIdx fun i x => ⟨i, x.1.pid, x.1.command.first.arguments, x.2⟩

/-- A listing says something about every job. -/
def Fits (R : Roster) : Deed → Prop
  | .lists statuses => statuses.length = R.jobs.length
  | _ => True

/-- Newer jobs have higher ranks, and the next job will have a higher rank than all of them. -/
structure Sound (R : Roster) : Prop where
  sorted : R.jobs.Pairwise fun newer older => older.rank < newer.rank
  bounded : ∀ job ∈ R.jobs, job.rank < R.launched

/-! ### One line -/

variable {R : Roster} {job : Job}

theorem Sound.launch (h : R.Sound) (birth : Pid × Command) : (R.launch birth).Sound where
  sorted := .cons h.bounded h.sorted
  bounded := by
    intro job hjob
    rcases List.mem_cons.1 hjob with rfl | hjob
    · exact Nat.lt_succ_self _
    · exact (h.bounded job hjob).trans (Nat.lt_succ_self _)

theorem Sound.after (h : R.Sound) (deed : Deed) : (R.after deed).Sound := by
  cases deed with
  | launches births =>
    induction births generalizing R with
    | nil => exact h
    | cons birth rest ih => exact ih (h.launch birth)
  | lists statuses =>
    have hkept := Table.select_sublist (statuses.map (· ≠ .terminated)) R.jobs
    exact ⟨h.sorted.sublist hkept, fun job hjob => h.bounded job (hkept.subset hjob)⟩
  | quits => exact ⟨.nil, nofun⟩

theorem Sound.nodup (h : R.Sound) : R.jobs.Nodup :=
  h.sorted.imp fun hlt heq => absurd (congrArg Job.rank heq) hlt.ne'

theorem launched_foldl_launch (births : List (Pid × Command)) :
    (births.foldl launch R).launched = R.launched + births.length := by
  induction births generalizing R with
  | nil => rfl
  | cons birth rest ih =>
    rw [List.foldl_cons, ih, List.length_cons]
    exact Nat.succ_add_eq_add_succ ..

theorem launched_le_after (R : Roster) (deed : Deed) : R.launched ≤ (R.after deed).launched := by
  cases deed with
  | launches births => exact launched_foldl_launch births ▸ Nat.le_add_right ..
  | lists | quits => exact le_rfl

theorem mem_foldl_launch {births : List (Pid × Command)} (h : job ∈ R.jobs) :
    job ∈ (births.foldl launch R).jobs := by
  induction births generalizing R with
  | nil => exact h
  | cons birth rest ih => exact ih (.tail _ h)

/-- Every process that is made gets a job of its own. -/
theorem mem_launches {births : List (Pid × Command)} {i : Nat} {birth : Pid × Command}
    (h : births[i]? = some birth) :
    ⟨R.launched + i, birth.1, birth.2⟩ ∈ (R.after (.launches births)).jobs := by
  induction births generalizing R i with
  | nil => cases h
  | cons first rest ih =>
    cases i with
    | zero =>
      cases h
      exact mem_foldl_launch (R := R.launch birth) (.head _)
    | succ i =>
      rw [Nat.add_comm i 1, ← Nat.add_assoc]
      exact ih (R := R.launch first) h

/-- A job that is not on the roster does not come back: newer ones have other ranks. -/
theorem mem_of_mem_after {deed : Deed} (h : job ∈ (R.after deed).jobs) :
    job ∈ R.jobs ∨ R.launched ≤ job.rank := by
  cases deed with
  | launches births =>
    induction births generalizing R with
    | nil => exact .inl h
    | cons birth rest ih =>
      rcases ih h with hjob | hrank
      · rcases List.mem_cons.1 hjob with rfl | hjob
        · exact .inr le_rfl
        · exact .inl hjob
      · exact .inr ((Nat.le_succ _).trans hrank)
  | lists statuses => exact .inl ((Table.select_sublist _ _).subset h)
  | quits => cases h

theorem shown_eq_nil (hjob : job ∉ R.jobs) (statuses : List Status) :
    R.shown job statuses = [] := by
  rw [shown, List.map_eq_nil_iff, List.filter_eq_nil_iff]
  rintro ⟨job', status⟩ hmem heq
  exact hjob (of_decide_eq_true heq ▸ (List.of_mem_zip hmem).1)

section

variable {n : Nat} {first : Job} {rest : List Job} {status : Status} {statuses : List Status}

theorem shown_cons :
    shown ⟨n, first :: rest⟩ job (status :: statuses) =
      if first = job then status :: shown ⟨n, rest⟩ job statuses
      else shown ⟨n, rest⟩ job statuses := by
  rw [shown, List.zip_cons_cons, List.filter_cons]
  by_cases heq : first = job
  · rw [if_pos (decide_eq_true heq), if_pos heq]
    rfl
  · rw [if_neg (by simpa using heq), if_neg heq]
    rfl

theorem jobs_after_lists_cons :
    (after ⟨n, first :: rest⟩ (.lists (status :: statuses))).jobs =
      if status = .terminated then (after ⟨n, rest⟩ (.lists statuses)).jobs
      else first :: (after ⟨n, rest⟩ (.lists statuses)).jobs := by
  cases status <;> rfl

/-- A listing says one thing about each job, and drops the job exactly if it says that the job is
dead. -/
theorem shown_eq_singleton (hsound : R.Sound) (hjob : job ∈ R.jobs)
    (hfits : R.Fits (.lists statuses)) :
    ∃ status, R.shown job statuses = [status] ∧
      (job ∈ (R.after (.lists statuses)).jobs ↔ status ≠ .terminated) := by
  obtain ⟨n, jobs⟩ := R
  change job ∈ jobs at hjob
  induction jobs generalizing statuses with
  | nil => cases hjob
  | cons first rest ih =>
    rcases statuses with _ | ⟨status, statuses⟩
    · cases hfits
    rw [shown_cons, jobs_after_lists_cons]
    have hrest : Sound ⟨n, rest⟩ :=
      ⟨hsound.sorted.of_cons, fun job hjob => hsound.bounded job (.tail _ hjob)⟩
    by_cases heq : first = job
    · subst heq
      have hnot : first ∉ rest := (List.nodup_cons.1 hsound.nodup).1
      have hdropped : first ∉ (after ⟨n, rest⟩ (.lists statuses)).jobs :=
        fun h => hnot ((Table.select_sublist _ _).subset h)
      rw [if_pos rfl, shown_eq_nil hnot]
      refine ⟨status, rfl, ?_⟩
      split
      next hdead => exact iff_of_false hdropped fun hlive => hlive hdead
      next hlive => exact iff_of_true (.head _) hlive
    · obtain ⟨status', hshown, hkept⟩ :=
        ih hrest (Nat.succ.inj hfits) ((List.mem_cons.1 hjob).resolve_left (Ne.symm heq))
      rw [if_neg heq]
      refine ⟨status', hshown, ?_⟩
      split
      · exact hkept
      · rw [List.mem_cons, or_iff_right (Ne.symm heq)]
        exact hkept

end

/-- What makes a job leave the roster. -/
theorem eq_of_notMem_after (hsound : R.Sound) (hjob : job ∈ R.jobs) {deed : Deed}
    (hfits : R.Fits deed) (hgone : job ∉ (R.after deed).jobs) :
    deed = .quits ∨ ∃ statuses, deed = .lists statuses ∧ R.shown job statuses = [.terminated] := by
  cases deed with
  | launches births => exact absurd (mem_foldl_launch hjob) hgone
  | lists statuses =>
    obtain ⟨status, hshown, hkept⟩ := shown_eq_singleton hsound hjob hfits
    have hdead : status = .terminated := not_not.1 fun h => hgone (hkept.2 h)
    exact .inr ⟨statuses, rfl, hdead ▸ hshown⟩
  | quits => exact .inl rfl

/-! ### All lines -/

variable {deeds : List Deed}

theorem upTo_succ {n : Nat} {deed : Deed} (h : deeds[n]? = some deed) :
    upTo deeds (n + 1) = (upTo deeds n).after deed := by
  rw [upTo, List.take_add_one, h, List.foldl_append]
  rfl

theorem upTo_append {n : Nat} (h : n ≤ deeds.length) (deed : Deed) :
    upTo (deeds ++ [deed]) n = upTo deeds n := by
  rw [upTo, List.take_append_of_le_length h, upTo]

theorem upTo_cases (deeds : List Deed) (n : Nat) :
    upTo deeds (n + 1) = upTo deeds n ∨ ∃ deed, upTo deeds (n + 1) = (upTo deeds n).after deed := by
  rcases h : deeds[n]? with _ | deed
  · refine .inl ?_
    rw [upTo, List.take_add_one, h, Option.toList_none, List.append_nil, upTo]
  · exact .inr ⟨deed, upTo_succ h⟩

theorem sound_upTo (deeds : List Deed) (n : Nat) : (upTo deeds n).Sound := by
  induction n with
  | zero => exact ⟨.nil, nofun⟩
  | succ n ih =>
    rcases upTo_cases deeds n with h | ⟨deed, h⟩
    · exact h ▸ ih
    · exact h ▸ ih.after deed

theorem launched_mono (deeds : List Deed) : Monotone fun n => (upTo deeds n).launched := by
  refine monotone_nat_of_le_succ fun n => ?_
  rcases upTo_cases deeds n with h | ⟨deed, h⟩
  · exact (congrArg launched h).ge
  · exact h ▸ launched_le_after _ deed

/-- A job that has left the roster never comes back. -/
theorem notMem_upTo {m n : Nat} (hrank : job.rank < (upTo deeds m).launched)
    (hgone : job ∉ (upTo deeds m).jobs) (h : m ≤ n) : job ∉ (upTo deeds n).jobs := by
  induction n, h using Nat.le_induction with
  | base => exact hgone
  | succ n hmn ih =>
    rcases upTo_cases deeds n with h | ⟨deed, h⟩
    · exact h ▸ ih
    · rw [h]
      intro hjob
      rcases mem_of_mem_after hjob with hjob | hnew
      · exact ih hjob
      · exact absurd (hrank.trans_le (launched_mono deeds hmn)) hnew.not_gt

/-- The life of a job, from the line that launched it to the last one that found it on the roster,
or to the end of all lines. Lines are counted from 0. -/
structure Life (deeds : List Deed) (job : Job) (first last : Nat) : Prop where
  span : first < last ∧ last ≤ deeds.length
  /-- The job is on the roster exactly between the two lines. -/
  kept : ∀ n ≤ deeds.length, job ∈ (upTo deeds n).jobs ↔ first < n ∧ n ≤ last
  /-- In between every listing shows it once, and not as dead. -/
  listed : ∀ n statuses, first < n → n < last → deeds[n]? = some (.lists statuses) →
    (upTo deeds n).shown job statuses = [.running] ∨
      (upTo deeds n).shown job statuses = [.suspended]
  /-- The last line is a listing that shows it once, as dead, or the end of the shell. -/
  ended : last < deeds.length → deeds[last]? = some .quits ∨
    ∃ statuses, deeds[last]? = some (.lists statuses) ∧
      (upTo deeds last).shown job statuses = [.terminated]
  /-- No other listing shows it. -/
  unlisted : ∀ n statuses, n ≤ first ∨ last < n → deeds[n]? = some (.lists statuses) →
    (upTo deeds n).shown job statuses = []

/-- What is true at one moment stays true up to some last moment. -/
theorem exists_last {P : Nat → Prop} {first length : Nat} (h : first < length)
    (hP : P (first + 1)) :
    ∃ last, first < last ∧ last ≤ length ∧ (∀ n, first < n → n ≤ last → P n) ∧
      (last < length → ¬ P (last + 1)) := by
  classical
  have hends : ∃ n, first < n ∧ (n < length → ¬ P (n + 1)) :=
    ⟨length, h, fun hlt => absurd hlt (lt_irrefl _)⟩
  obtain ⟨hfirst, hlast⟩ := Nat.find_spec hends
  refine ⟨Nat.find hends, hfirst, ?_, fun n hn hle => ?_, hlast⟩
  · exact Nat.find_min' hends ⟨h, fun hlt => absurd hlt (lt_irrefl _)⟩
  · obtain ⟨n, rfl⟩ := Nat.exists_eq_add_of_lt hn
    rcases Nat.eq_zero_or_pos n with rfl | hpos
    · exact hP
    · have hmin := Nat.find_min hends (m := first + n) (by omega)
      exact not_not.1 fun hnot => hmin ⟨by omega, fun _ => hnot⟩

/-- Every process that is made has a life of its own. -/
theorem exists_life (hfits : ∀ n deed, deeds[n]? = some deed → (upTo deeds n).Fits deed)
    {first i : Nat} {births : List (Pid × Command)} {birth : Pid × Command}
    (hdeed : deeds[first]? = some (.launches births)) (hbirth : births[i]? = some birth) :
    ∃ last, Life deeds ⟨(upTo deeds first).launched + i, birth.1, birth.2⟩ first last := by
  set job : Job := ⟨(upTo deeds first).launched + i, birth.1, birth.2⟩
  have hlength : first < deeds.length := (List.getElem?_eq_some_iff.1 hdeed).1
  have hborn : job ∈ (upTo deeds (first + 1)).jobs := by
    rw [upTo_succ hdeed]
    exact mem_launches hbirth
  -- Before its launch no job has its rank.
  have hunborn : ∀ n ≤ first, job ∉ (upTo deeds n).jobs := by
    intro n hn hmem
    have hrank := (sound_upTo deeds n).bounded job hmem
    exact absurd (hrank.trans_le (launched_mono deeds hn)) (Nat.le_add_right _ i).not_gt
  -- Its life lasts as long as it is on the roster without a break.
  obtain ⟨last, hfirst, hlast, hkept, hends⟩ :=
    exists_last (P := fun n => job ∈ (upTo deeds n).jobs) hlength hborn
  have hgone : ∀ n ≤ deeds.length, last < n → job ∉ (upTo deeds n).jobs := by
    intro n hn hlt
    have hrank := (sound_upTo deeds last).bounded job (hkept last hfirst le_rfl)
    have hlaunched := hrank.trans_le (launched_mono deeds (Nat.le_succ last))
    exact notMem_upTo hlaunched (hends (hlt.trans_le hn)) hlt
  refine ⟨last, { span := ⟨hfirst, hlast⟩, kept := ?_, listed := ?_, ended := ?_, unlisted := ?_ }⟩
  · intro n hn
    refine ⟨fun hmem => ?_, fun h => hkept n h.1 h.2⟩
    exact ⟨not_le.1 fun hle => hunborn n hle hmem, not_lt.1 fun hlt => hgone n hn hlt hmem⟩
  · intro n statuses hn hlt hlists
    obtain ⟨status, hshown, hlive⟩ :=
      shown_eq_singleton (sound_upTo deeds n) (hkept n hn hlt.le) (hfits n _ hlists)
    -- The job is still there after this listing, so the listing has not found it dead.
    have hnext := hkept (n + 1) (hn.trans n.lt_succ_self) hlt
    rw [upTo_succ hlists, hlive] at hnext
    rw [hshown]
    cases status with
    | running => exact .inl rfl
    | suspended => exact .inr rfl
    | terminated => exact absurd rfl hnext
  · intro hlt
    obtain ⟨deed, hdeed⟩ : ∃ deed, deeds[last]? = some deed := ⟨_, List.getElem?_eq_getElem hlt⟩
    have hdropped := hends hlt
    rw [upTo_succ hdeed] at hdropped
    rw [hdeed]
    rcases eq_of_notMem_after (sound_upTo deeds last) (hkept last hfirst le_rfl) (hfits _ _ hdeed)
      hdropped with rfl | ⟨statuses, rfl, hshown⟩
    · exact .inl rfl
    · exact .inr ⟨statuses, rfl, hshown⟩
  · intro n statuses hn hlists
    have hlt : n < deeds.length := (List.getElem?_eq_some_iff.1 hlists).1
    refine shown_eq_nil ?_ statuses
    rcases hn with hle | hlast
    · exact hunborn n hle
    · exact hgone n hlt.le hlast

end Roster

namespace Shell

open Roster

/-- A line that has been processed. -/
structure Passage where
  raw : String
  before : Session
  trace : Trace
  result : Except Failure Flow
  after : Session

/-- From one session to another by processing lines. A line at which the shell is stuck is never
done, and no other line follows it. -/
inductive Passages (settings : Settings) : Session → List Passage → Session → Prop where
  | nil (s : Session) : Passages settings s [] s
  | snoc {s : Session} {ps : List Passage} (p : Passage) (earlier : Passages settings s ps p.before)
      (line : Runs (processLine settings p.raw) p.before p.trace p.result p.after)
      (ends : p.result ≠ .error .stuck) : Passages settings s (ps ++ [p]) p.after

namespace Passage

/-- What a line has done to the processes. -/
inductive Does (settings : Settings) (p : Passage) : Deed → Prop where
  /-- The built-in command that lists the processes shows what a refresh found. -/
  | lists {s : Session} {seen : Table} {u v : Trace}
      (request : requested? p.before p.raw = some .procs) (trace : p.trace = u ++ v)
      (refreshed : Runs (p.before.table.refresh (poll settings)) s u (.ok seen) s)
      (births : p.trace.births = []) : Does settings p (.lists (seen.records.map (·.observed)))
  /-- The built-in command that ends the shell. -/
  | quits (request : requested? p.before p.raw = some .quit) (births : p.trace.births = []) :
      Does settings p .quits
  /-- Any other line, whatever comes of it. -/
  | launches (hprocs : requested? p.before p.raw ≠ some .procs)
      (hquit : requested? p.before p.raw ≠ some .quit) : Does settings p (.launches p.trace.births)

/-- A line has done something that takes the table from one roster to the next, and if this was a
listing, it has written down what it found. -/
structure Matches (settings : Settings) (p : Passage) (R : Roster) (deed : Deed) : Prop where
  does : p.Does settings deed
  before : p.before.table.subjects = R.jobs.map Job.subject
  after : p.after.table.subjects = (R.after deed).jobs.map Job.subject
  fits : R.Fits deed
  written : ∀ statuses, deed = .lists statuses →
    p.trace.written = Listing.pieces (R.listing statuses)

end Passage

variable {settings : Settings} {p : Passage} {ps : List Passage} {R : Roster} {s : Session}

theorem subjects_launches (births : List (Pid × Command)) :
    (R.after (.launches births)).jobs.map Job.subject =
      births.reverse ++ R.jobs.map Job.subject := by
  induction births generalizing R with
  | nil => rfl
  | cons birth rest ih =>
    rw [List.reverse_cons, List.append_assoc]
    exact ih (R := R.launch birth)

theorem length_eq_of_subjects_eq {t : Table} (h : t.subjects = R.jobs.map Job.subject) :
    t.records.length = R.jobs.length := by
  simpa [Table.subjects] using congrArg List.length h

theorem entries_eq_listing {t : Table} (h : t.subjects = R.jobs.map Job.subject) :
    t.entries = R.listing (t.records.map Record.status) := by
  have hlength := length_eq_of_subjects_eq h
  refine List.ext_getElem (by simp [Table.entries, listing, hlength]) fun i hi _ => ?_
  have hsubject := congrArg (·[i]?) h
  have hrecord : i < t.records.length := by simpa [Table.entries] using hi
  have hjob : i < R.jobs.length := hlength ▸ hrecord
  simp only [Table.subjects, List.length_map, hrecord, getElem?_pos, List.getElem_map,
    Record.subject, hjob, Job.subject, Option.some.injEq, Prod.mk.injEq] at hsubject
  simp [Table.entries, listing, hsubject]

/-- A line that is done has done one of these things. -/
theorem Passage.exists_matches
    (hline : Runs (processLine settings p.raw) p.before p.trace p.result p.after)
    (hends : p.result ≠ .error .stuck) (hwrites : p.trace.Writes)
    (hbefore : p.before.table.subjects = R.jobs.map Job.subject) :
    ∃ deed, p.Matches settings R deed := by
  have hgrown : ∀ {s}, growth.Allows s p.trace p.after → s.table = p.before.table →
      p.after.table.subjects = (R.after (.launches p.trace.births)).jobs.map Job.subject := by
    rintro s ⟨-, hsubjects⟩ htable
    rw [hsubjects, htable, hbefore, subjects_launches]
  rcases runs_processLine hline hends with ⟨hsession, htrace, hrequest⟩ | ⟨line, -, -, hexecuted⟩
  · refine ⟨_, .launches (by simp [hrequest]) (by simp [hrequest]), hbefore, ?_, trivial, nofun⟩
    rw [hsession, htrace]
    exact hbefore
  · generalize hrequest : requested? p.before p.raw = request at hexecuted
    cases hexecuted with
    | grown hprocs hquit hgrows =>
      exact ⟨_, .launches (hrequest ▸ hprocs) (hrequest ▸ hquit), hbefore, hgrown hgrows rfl,
        trivial, nofun⟩
    | ended htrace hdropped =>
      refine ⟨_, .quits hrequest (htrace ▸ rfl), hbefore, ?_, trivial, nofun⟩
      rw [hdropped]
      rfl
    | @listed seen u v htrace hrefreshed hbirths hwritten hreaped =>
      have hsettles := settles_of_runs_refresh hrefreshed
      have hsubjects := Table.subjects_eq_of_settles hsettles
      have hstatuses : seen.records.map Record.status = seen.records.map (·.observed) := by
        refine List.map_congr_left fun r hr => ?_
        rw [Record.status, Table.predicted_eq_none_of_settles hsettles r hr, Option.getD_none]
      refine ⟨_, .lists hrequest htrace hrefreshed hbirths, hbefore, ?_, ?_, ?_⟩
      · rw [hreaped, Table.subjects_reap, hsubjects, hbefore, hstatuses, Roster.after,
          Table.map_select]
      · exact (List.length_map _).trans (length_eq_of_subjects_eq (hsubjects.trans hbefore))
      · rintro _ ⟨⟩
        rw [hwritten hwrites, entries_eq_listing (hsubjects.trans hbefore), hstatuses]

/-- A run of the shell does one thing after the other, and each takes the table from one roster to
the next. -/
theorem Passages.exists_deeds (hrun : Passages settings .fresh ps s)
    (hwrites : ∀ p ∈ ps, p.trace.Writes) :
    ∃ deeds, deeds.length = ps.length ∧
      (∀ n (p : Passage) deed, ps[n]? = some p → deeds[n]? = some deed →
        p.Matches settings (upTo deeds n) deed) ∧
      s.table.subjects = (upTo deeds ps.length).jobs.map Job.subject := by
  induction hrun with
  | nil => exact ⟨[], rfl, nofun, rfl⟩
  | @snoc ps p _ line ends ih =>
    obtain ⟨deeds, hlength, hmatches, hbefore⟩ :=
      ih fun p hp => hwrites p (List.mem_append_left _ hp)
    obtain ⟨deed, hlast⟩ := Passage.exists_matches line ends
      (hwrites p (List.mem_append_right _ (List.mem_singleton_self p))) hbefore
    refine ⟨deeds ++ [deed], by simp [hlength], fun n p' deed' hp' hdeed' => ?_, ?_⟩
    · rcases Nat.lt_or_ge n ps.length with hn | hn
      · rw [List.getElem?_append_left hn] at hp'
        rw [List.getElem?_append_left (hlength ▸ hn)] at hdeed'
        rw [upTo_append (hlength ▸ hn.le)]
        exact hmatches n p' deed' hp' hdeed'
      · obtain rfl : n = ps.length := by
          have hlt := (List.getElem?_eq_some_iff.1 hp').1
          rw [List.length_append, List.length_singleton] at hlt
          omega
        rw [List.getElem?_concat_length] at hp'
        rw [← hlength, List.getElem?_concat_length] at hdeed'
        cases hp'
        cases hdeed'
        rw [upTo_append hlength.ge]
        exact hlast
    · rw [List.length_append, List.length_singleton, ← hlength,
        upTo_succ List.getElem?_concat_length, upTo_append le_rfl, hlength]
      exact hlast.after

/-! ### An example

The session of `Recycled`, but this time the listing can be written. It shows the second program,
which still runs, and the first one, whose end it knows already. -/

namespace Relisted

open Recycled

def listing : Trace :=
  [⟨.wait ⟨7⟩ .poll, .ok .stillAlive⟩, ⟨.log (.reaping ⟨7⟩), ()⟩] ++
    (Listing.pieces session.table.entries).map fun text => ⟨.write text, .ok ()⟩

theorem runs_listing :
    Runs (processLine silent "procs") session listing (.ok .proceed) afterListing := by
  rw [Runs, run_processLine "procs" (.ofArguments ["procs"]) (by decide) (by decide)
    (fun _ => rfl) (by decide) (by decide)]
  exact .call _ (.call _ (.call _ (.call _ (.call _ (.call _ (.call _ (.call _ (.call _
    (.done _)))))))))

def first : Passage := ⟨"a", .fresh, foreground, .ok .proceed, ⟨⟨[old]⟩, ⟨20, ["a"]⟩⟩⟩

def second : Passage := ⟨"b &", first.after, background, .ok .proceed, session⟩

def third : Passage := ⟨"procs", session, listing, .ok .proceed, afterListing⟩

theorem passages : Passages silent .fresh [first, second, third] afterListing :=
  .snoc third (.snoc second (.snoc first (.nil _) runs_foreground nofun) runs_background nofun)
    runs_listing nofun

theorem writes : ∀ p ∈ [first, second, third], p.trace.Writes := by decide

end Relisted

/-- No process is lost or listed twice, if what is written can be written. Every line has done some
deed that takes the roster from before it to the one after it, the table is about the jobs of the
roster in the same order, a listing is that of the roster, and every process made has its own life
on the roster. -/
theorem listed_until_dead (hrun : Passages settings .fresh ps s)
    (hwrites : ∀ p ∈ ps, p.trace.Writes) :
    ∃ deeds, deeds.length = ps.length ∧
      (∀ n (p : Passage) deed, ps[n]? = some p → deeds[n]? = some deed →
        p.Matches settings (upTo deeds n) deed) ∧
      (∀ n, (upTo deeds n).Sound) ∧
      ∀ first births i birth, deeds[first]? = some (.launches births) → births[i]? = some birth →
        ∃ last, Life deeds ⟨(upTo deeds first).launched + i, birth.1, birth.2⟩ first last := by
  obtain ⟨deeds, hlength, hmatches, -⟩ := hrun.exists_deeds hwrites
  refine ⟨deeds, hlength, hmatches, sound_upTo deeds, fun first births i birth hdeed hbirth => ?_⟩
  refine exists_life (fun n deed hn => ?_) hdeed hbirth
  have hlt : n < ps.length := hlength ▸ (List.getElem?_eq_some_iff.1 hn).1
  exact (hmatches n _ deed (List.getElem?_eq_getElem hlt) hn).fits

theorem listed_until_dead_relisted :
    Passages Recycled.silent .fresh [Relisted.first, Relisted.second, Relisted.third]
        Recycled.afterListing ∧
      (∀ p ∈ [Relisted.first, Relisted.second, Relisted.third], p.trace.Writes) ∧
      ∃ deeds last, deeds[0]? = some (.launches [(⟨7⟩, Recycled.old.command)]) ∧
        Life deeds ⟨0, ⟨7⟩, Recycled.old.command⟩ 0 last := by
  obtain ⟨deeds, hlength, hmatches, -, hlives⟩ :=
    listed_until_dead Relisted.passages Relisted.writes
  obtain ⟨deed, hdeed⟩ : ∃ deed, deeds[0]? = some deed :=
    ⟨_, List.getElem?_eq_getElem (hlength ▸ Nat.succ_pos 2)⟩
  have hrequest : requested? .fresh "a" = none := by decide +kernel
  have hborn : deed = .launches [(⟨7⟩, Recycled.old.command)] := by
    cases (hmatches 0 Relisted.first deed rfl hdeed).does with
    | lists request => exact absurd (request.symm.trans hrequest) nofun
    | quits request => exact absurd (request.symm.trans hrequest) nofun
    | launches => rfl
  obtain ⟨last, hlife⟩ := hlives 0 _ 0 _ (hborn ▸ hdeed) rfl
  exact ⟨Relisted.passages, Relisted.writes, deeds, last, hborn ▸ hdeed, hlife⟩

end Shell

end JobShell
