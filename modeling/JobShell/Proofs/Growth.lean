import JobShell.Line
import JobShell.Proofs.Commands
import JobShell.Proofs.Launching
import JobShell.Proofs.Predictions

/-!
# What a line does to the session

Here nothing is assumed of the system, and news may come from any probe. Main statement: a line is
ignored, or it is recorded and then does to the table what `Executed` says (`runs_processLine`):
most commands leave each record in its place and put the new ones in front, a listing drops the
records that it shows as dead, and the end of the shell drops all.
-/

namespace JobShell

namespace Exchange

/-- What was written to standard output. -/
def written? : Exchange → Option String
  | ⟨.write text, .ok ()⟩ => some text
  | _ => none

/-- Whether something could not be written to standard output. -/
def isUnwritten : Exchange → Bool
  | ⟨.write _, .error _⟩ => true
  | _ => false

end Exchange

namespace Trace

/-- The pieces of text written, in order. -/
def written (t : Trace) : List String := t.filterMap Exchange.written?

/-- Everything could be written. -/
def Writes (t : Trace) : Prop := ∀ e ∈ t, e.isUnwritten = false

instance (t : Trace) : Decidable t.Writes := inferInstanceAs (Decidable (∀ e ∈ t, _))

@[simp] theorem written_append (t u : Trace) : written (t ++ u) = written t ++ written u :=
  List.filterMap_append

theorem Writes.append_iff {t u : Trace} : Writes (t ++ u) ↔ Writes t ∧ Writes u := by
  simp only [Writes, List.mem_append, or_imp, forall_and]

end Trace

/-- Whether a call only finds out what became of a process, or is a note about that. -/
def Call.isInquiry : Call → Bool
  | wait _ _ | report _ | log _ => true
  | _ => false

namespace Shell

variable {α : Type} {settings : Settings} {s s' : Session} {t : Trace} {r : Except Failure α}

/-- Nothing happens to the session, no process is made, and nothing is written. -/
def still : Effect where
  Allows s t s' := s' = s ∧ t.births = [] ∧ t.written = []
  refl _ := ⟨rfl, rfl, rfl⟩
  trans := by
    rintro s₁ s₂ s₃ t u ⟨rfl, hbirths, hwritten⟩ ⟨rfl, hbirths', hwritten'⟩
    rw [Trace.births_append, Trace.written_append, hbirths, hbirths', hwritten, hwritten']
    exact ⟨rfl, rfl, rfl⟩

/-- Records stay in their places, and the processes made get records in front of them. The history
stays as it is. -/
def growth : Effect where
  Allows s t s' :=
    s'.history = s.history ∧ s'.table.subjects = t.births.reverse ++ s.table.subjects
  refl _ := ⟨rfl, rfl⟩
  trans := by
    rintro s₁ s₂ s₃ t u ⟨hhistory, hsubjects⟩ ⟨hhistory', hsubjects'⟩
    rw [Trace.births_append, List.reverse_append, List.append_assoc, ← hsubjects, hhistory',
      hhistory, hsubjects']
    exact ⟨rfl, rfl⟩

theorem Within.growth {x : Shell α} (h : Within still x) : Within growth x := by
  refine h.mono ?_
  rintro s t s' ⟨rfl, hbirths, -⟩
  exact ⟨rfl, by rw [hbirths]; rfl⟩

theorem still_log (e : Log.Event) : Within still (log e) := .ask fun _ _ => ⟨rfl, rfl, rfl⟩

theorem growth_ask {c : Call} (h : c.isRoutine) : Within growth (ask c) := by
  refine .ask fun s answer => ⟨rfl, ?_⟩
  cases c <;> first | rfl | cases h

/-! ## News -/

section

variable {E : Effect} {F : Failure → Prop}
  (hE : ∀ c : Call, c.isInquiry → ∀ s answer, E.Allows s [⟨c, answer⟩] s) (hF : F .stuck)

include hE hF

theorem confined_pollChild (pid : Pid) (patience : Nat) :
    Confined E F (pollChild pid patience) := by
  induction patience with
  | zero => exact .throw hF
  | succ patience ih =>
    refine .bind (.ask (hE _ rfl)) fun answer => ?_
    rcases answer with e | outcome
    · dsimp only
      split
      · exact ih
      · exact .bind (.ask (hE _ rfl)) fun _ => .pure _
    · exact .pure _

theorem confined_poll (settings : Settings) (pid : Pid) : Confined E F (poll settings pid) := by
  unfold poll
  split
  · exact confined_pollChild hE hF pid _
  · exact .ask (hE _ rfl)

/-- All that a refresh does is to inquire, and it only fails by going on for ever. -/
theorem confined_refresh (settings : Settings) (table : Table) :
    Confined E F (table.refresh (poll settings)) := by
  refine .bind ?_ fun _ => .pure _
  induction table.records with
  | nil => exact .pure _
  | cons r rest ih =>
    refine .bind ?_ fun _ => .bind ih fun _ => .pure _
    rw [Table.refreshRecord]
    split
    · exact .pure _
    · exact .bind (confined_poll hE hF settings r.pid) fun _ => .pure _

theorem confined_awaitChild (pid : Pid) (patience : Nat) :
    Confined E F (awaitChild pid patience) := by
  induction patience with
  | zero => exact .throw hF
  | succ patience ih =>
    refine .bind (.ask (hE _ rfl)) fun answer => ?_
    rcases answer with e | outcome
    · dsimp only
      split
      · exact ih
      · exact .bind (.ask (hE _ rfl)) fun _ => .pure _
    · dsimp only
      split
      · exact ih
      · exact ih
      · exact .pure _

theorem confined_awaitAll (settings : Settings)
    (hobserve : ∀ s pid status, E.Allows s [] { s with table := s.table.observe pid status })
    (pids : List Pid) : Confined E F (awaitAll settings pids) := by
  induction pids with
  | nil => exact .pure _
  | cons pid rest ih =>
    refine .bind (confined_awaitChild hE hF pid _) fun status => ?_
    refine .bind (.ask (hE _ rfl)) fun _ => ?_
    exact .bind (.modifyTable fun s => hobserve s pid status) fun _ => ih

omit hF in
/-- The notes about the dead processes of a listing. -/
theorem confined_logDead (entries : List Entry) :
    Confined E F
      (forIn entries PUnit.unit fun e _ =>
        if e.status = .terminated then do
          log (.reaping e.pid)
          pure (.yield ⟨⟩)
        else
          pure (.yield ⟨⟩)) := by
  refine .forIn (fun e _ => ?_) entries _
  split
  · exact .bind (.ask (hE _ rfl)) fun _ => .pure _
  · exact .pure _

end

/-- An inquiry leaves everything as it is. -/
theorem still_inquiry (c : Call) (h : c.isInquiry) (s : Session) (answer : c.Answer) :
    still.Allows s [⟨c, answer⟩] s := by
  cases c <;> first | exact ⟨rfl, rfl, rfl⟩ | cases h

theorem still_refresh (table : Table) : Within still (table.refresh (poll settings)) :=
  (confined_refresh (F := fun _ => True) still_inquiry trivial settings table).within

theorem unfailing_refresh (table : Table) : Unfailing (table.refresh (poll settings)) :=
  (confined_refresh (F := (· = .stuck)) still_inquiry rfl settings table).failure

theorem settles_of_runs_refreshRecord {r r' : Record}
    (h : Runs (Table.refreshRecord (poll settings) r) s t (.ok r') s') : r.Settles r' := by
  rw [Table.refreshRecord] at h
  split at h
  · obtain ⟨-, ⟨⟩, -⟩ := runs_pure.1 h
    exact r.settles_bare
  · obtain ⟨news, _, _, _, -, -, hv⟩ := runs_bind_ok.1 h
    obtain ⟨-, ⟨⟩, -⟩ := runs_pure.1 hv
    exact r.settles_afterReport news

theorem settles_of_runs_refreshRecords {rs rs' : List Record}
    (h : Runs (Table.refreshRecords (poll settings) rs) s t (.ok rs') s') :
    List.Forall₂ Record.Settles rs rs' := by
  induction rs generalizing s t rs' s' with
  | nil =>
    obtain ⟨-, ⟨⟩, -⟩ := runs_pure.1 h
    exact .nil
  | cons r rest ih =>
    obtain ⟨r', _, _, _, -, hfirst, hv⟩ := runs_bind_ok.1 h
    obtain ⟨rest', _, _, _, -, hrest, hw⟩ := runs_bind_ok.1 hv
    obtain ⟨-, ⟨⟩, -⟩ := runs_pure.1 hw
    exact .cons (settles_of_runs_refreshRecord hfirst) (ih hrest)

/-- A refresh leaves the records in their places and nothing that is only expected. -/
theorem settles_of_runs_refresh {table seen : Table}
    (h : Runs (table.refresh (poll settings)) s t (.ok seen) s') :
    List.Forall₂ Record.Settles table.records seen.records := by
  obtain ⟨rs, _, _, _, -, hu, hv⟩ := runs_bind_ok.1 h
  obtain ⟨-, ⟨⟩, -⟩ := runs_pure.1 hv
  exact settles_of_runs_refreshRecords hu

/-- A listing comes to an end if the refresh does. It shows the table as it is then, and drops the
dead records. -/
theorem runs_listAndReap {r : Except Failure (List Entry)}
    (h : Runs (listAndReap settings) s t r s') (hends : r ≠ .error .stuck) :
    ∃ seen u v, t = u ++ v ∧ Runs (s.table.refresh (poll settings)) s u (.ok seen) s ∧
      v.births = [] ∧ v.written = [] ∧ r = .ok seen.entries ∧
      s' = { s with table := seen.reap } := by
  rw [listAndReap, runs_get_bind, Table.listAndReap, bind_assoc] at h
  rcases runs_bind.1 h with ⟨seen, s₁, u, v, rfl, hu, hv⟩ | ⟨e, rfl, hu⟩
  · obtain ⟨rfl, -, -⟩ := still_refresh _ hu
    rw [pure_bind] at hv
    dsimp only at hv
    -- What the loop logs about dead processes goes unnoticed.
    have hnotes := confined_logDead (F := (· = .stuck)) still_inquiry seen.entries
    rcases runs_bind.1 hv with ⟨_, s₂, w, x, rfl, hw, hx⟩ | ⟨e, rfl, hw⟩
    · obtain ⟨rfl, hbirths, hwritten⟩ := hnotes.within hw
      rw [runs_modifyTable_bind] at hx
      obtain ⟨rfl, rfl, rfl⟩ := runs_pure.1 hx
      rw [List.append_nil]
      exact ⟨seen, u, w, rfl, hu, hbirths, hwritten, rfl, rfl⟩
    · exact absurd (congrArg _ (hnotes.failure hw)) hends
  · exact absurd (congrArg _ (unfailing_refresh _ hu)) hends

/-! ## Launching -/

theorem growth_spawnStages (command : Command) : Within growth (spawnStages settings command) := by
  intro s t r s' h
  obtain ⟨outcome, -, -, rfl⟩ := runs_spawnStages h
  refine ⟨rfl, ?_⟩
  show (s.table.enter t.births).subjects = _
  rw [Table.subjects, Table.records_enter, List.map_append, List.map_reverse, List.map_map]
  exact congrArg (·.reverse ++ _) (List.map_id _)

theorem growth_modifyTable {f : Table → Table} (h : ∀ t, (f t).subjects = t.subjects) :
    Within growth (modifyTable f) := .modifyTable fun s => ⟨rfl, h s.table⟩

theorem growth_awaitAll (pids : List Pid) : Within growth (awaitAll settings pids) := by
  refine (confined_awaitAll (F := fun _ => True) ?_ trivial settings ?_ pids).within
  · intro c h s answer
    obtain ⟨-, hbirths, -⟩ := still_inquiry c h s answer
    exact ⟨rfl, by rw [hbirths]; rfl⟩
  · exact fun s pid status => ⟨rfl, s.table.subjects_observe pid status⟩

theorem growth_launch (command : Command) : Within growth (launch settings command) := by
  rw [launch]
  split
  · exact .fail _
  · refine .bind (growth_spawnStages command) fun pids => ?_
    dsimp only
    split
    · exact .bind (growth_awaitAll pids) fun _ => .pure _
    · exact .pure _

/-! ## Built-in commands -/

theorem growth_argument (arguments : List String) : Within growth (argument arguments) := by
  unfold argument
  split
  · exact .pure _
  · exact .fail _
  · exact .throw _

/-- A text is written as far as the output takes it, and nothing else happens. -/
theorem runs_writeAll {pieces : List String} {r : Except Failure Unit}
    (h : Runs (writeAll pieces) s t r s') :
    s' = s ∧ t.births = [] ∧ (t.Writes → r = .ok () ∧ t.written = pieces) := by
  induction pieces generalizing t with
  | nil =>
    obtain ⟨rfl, rfl, rfl⟩ := runs_pure.1 h
    exact ⟨rfl, rfl, fun _ => ⟨rfl, rfl⟩⟩
  | cons piece rest ih =>
    change Runs (write piece >>= fun _ => writeAll rest) s t r s' at h
    rw [write, bind_assoc] at h
    obtain ⟨answer, u, rfl, hu⟩ := runs_ask_bind.1 h
    rcases answer with e | _
    · obtain ⟨rfl, -, rfl⟩ := runs_fail.1 hu
      exact ⟨rfl, rfl, fun hwrites => nomatch hwrites _ (.head _)⟩
    · obtain ⟨rfl, hbirths, hwritten⟩ := ih hu
      refine ⟨rfl, hbirths, fun hwrites => ?_⟩
      obtain ⟨hresult, hrest⟩ := hwritten fun e he => hwrites e (.tail _ he)
      exact ⟨hresult, congrArg (piece :: ·) hrest⟩

theorem growth_writeAll (pieces : List String) : Within growth (writeAll pieces) := by
  intro s t r s' h
  obtain ⟨rfl, hbirths, -⟩ := runs_writeAll h
  exact ⟨rfl, by rw [hbirths]; rfl⟩

theorem growth_listHistory : Within growth listHistory := .bind .get fun _ => growth_writeAll _

theorem growth_flush : Within growth flush := by
  refine .bind (growth_ask rfl) fun answer => ?_
  rcases answer with e | _
  · exact .fail _
  · exact .pure _

theorem growth_changeDirectory (arguments : List String) :
    Within growth (changeDirectory arguments) := by
  refine .bind (growth_argument arguments) fun path => ?_
  split
  · exact .fail _
  · refine .bind (growth_ask rfl) fun answer => ?_
    rcases answer with e | _
    · exact .fail _
    · exact .pure _

theorem growth_dispatch (pid : Pid) (control : Control) : Within growth (dispatch pid control) := by
  refine .bind .get fun s => ?_
  refine .bind (growth_modifyTable fun t => t.subjects_predict pid _) fun _ => ?_
  refine .bind (growth_ask rfl) fun _ => .bind (growth_ask rfl) fun answer => ?_
  rcases answer with e | _
  · exact .bind (growth_ask rfl) fun _ => .fail _
  · exact .pure _

theorem growth_actOnProcess (control : Control) (arguments : List String) :
    Within growth (actOnProcess control arguments) := by
  refine .bind (growth_argument arguments) fun arg => ?_
  split
  · exact growth_dispatch _ control
  · exact .fail _

/-! ## Lines -/

/-- What a command does to the session, by the built-in command that it asks for. -/
inductive Executed (settings : Settings) (s : Session) (t : Trace) (s' : Session) :
    Option Builtin → Prop where
  /-- A listing shows the table as it is after a refresh, and drops the dead records. -/
  | listed {seen : Table} {u v : Trace} (trace : t = u ++ v)
      (refreshed : Runs (s.table.refresh (poll settings)) s u (.ok seen) s)
      (births : t.births = []) (written : t.Writes → t.written = Listing.pieces seen.entries)
      (reaped : s' = { s with table := seen.reap }) : Executed settings s t s' (some .procs)
  /-- The end of the shell drops everything. -/
  | ended (trace : t = []) (dropped : s' = s.shutdown) : Executed settings s t s' (some .quit)
  /-- Everything else makes processes at most. -/
  | grown {request : Option Builtin} (hprocs : request ≠ some .procs)
      (hquit : request ≠ some .quit) (grows : growth.Allows s t s') :
      Executed settings s t s' request

/-- Without a built-in command a line makes processes at most. -/
theorem Executed.of_growth (h : growth.Allows s t s') : Executed settings s t s' none :=
  .grown (by simp) (by simp) h

theorem runs_listProcesses {r : Except Failure Unit}
    (h : Runs (listProcesses settings) s t r s') (hends : r ≠ .error .stuck) :
    Executed settings s t s' (some .procs) := by
  rcases runs_bind.1 h with ⟨entries, s₁, u, v, rfl, hu, hv⟩ | ⟨e, rfl, hu⟩
  · obtain ⟨seen, x, y, rfl, hrefreshed, hbirths, hwritten, ⟨⟩, rfl⟩ := runs_listAndReap hu nofun
    obtain ⟨rfl, hbirths', hwritten'⟩ := runs_writeAll hv
    obtain ⟨-, hquiet, hsilent⟩ := still_refresh _ hrefreshed
    refine .listed (List.append_assoc ..) hrefreshed ?_ (fun hwrites => ?_) rfl
    · rw [Trace.births_append, Trace.births_append, hquiet, hbirths, hbirths']
      rfl
    · rw [Trace.written_append, Trace.written_append, hsilent, hwritten,
        (hwritten' (Trace.Writes.append_iff.1 hwrites).2).2]
      rfl
  · obtain ⟨_, _, _, _, _, _, _, h, -⟩ := runs_listAndReap hu (error_ne_stuck hends)
    cases h

theorem runs_runBuiltin {builtin : Builtin} {arguments : List String} {r : Except Failure Flow}
    (h : Runs (runBuiltin settings builtin arguments) s t r s') (hends : r ≠ .error .stuck) :
    Executed settings s t s' (some builtin) := by
  unfold runBuiltin at h
  cases builtin with
  | cd => exact .grown nofun nofun ((growth_changeDirectory arguments).bind (fun _ => .pure _) h)
  | procs =>
    rcases runs_bind.1 h with ⟨_, s₁, u, v, rfl, hu, hv⟩ | ⟨e, rfl, hu⟩
    · obtain ⟨rfl, -, rfl⟩ := runs_pure.1 hv
      rw [List.append_nil]
      exact runs_listProcesses hu nofun
    · exact runs_listProcesses hu (error_ne_stuck hends)
  | hist => exact .grown nofun nofun (growth_listHistory.bind (fun _ => .pure _) h)
  | control control =>
    exact .grown nofun nofun ((growth_actOnProcess control arguments).bind (fun _ => .pure _) h)
  | quit =>
    rw [runs_modify_bind] at h
    obtain ⟨rfl, -, rfl⟩ := runs_pure.1 h
    exact .ended rfl rfl

theorem runs_execute {command : Command} {r : Except Failure Flow}
    (h : Runs (execute settings command) s t r s') (hends : r ≠ .error .stuck) :
    Executed settings s t s' (builtin? command) := by
  unfold execute at h
  split at h
  next builtin hbuiltin =>
    rw [hbuiltin]
    exact runs_runBuiltin h hends
  next hnone =>
    rw [hnone]
    refine .of_growth (Within.bind growth_flush (fun _ => ?_) h)
    exact .bind (growth_launch command) fun pids => .bind (still_log _).growth fun _ => .pure _

/-- A line is recorded before the command on it is carried out. -/
theorem runs_processResolved {line : String} {r : Except Failure Flow}
    (h : Runs (processResolved settings line) s t r s') (hends : r ≠ .error .stuck) :
    Executed settings { s with history := s.history.push line } t s' (builtinOn? line) := by
  rw [processResolved, runs_modify_bind] at h
  rw [builtinOn?]
  generalize Command.parse line = parsed at h ⊢
  rcases parsed with (e | _) | _ | command <;> dsimp only at h ⊢
  · exact .of_growth (Within.fail _ h)
  · exact .of_growth (Within.throw _ h)
  · exact .of_growth (Within.pure _ h)
  · exact runs_execute h hends

/-- A line has an effect on the session exactly if it is not blank and can be resolved. Then it is
recorded, and afterwards the command on it is carried out. -/
theorem runs_processLine {raw : String} {r : Except Failure Flow}
    (h : Runs (processLine settings raw) s t r s') (hends : r ≠ .error .stuck) :
    (s' = s ∧ t = [] ∧ requested? s raw = none) ∨
      ∃ line, Text.isBlankText (withoutLineEnd raw) = false ∧
        s.history.resolve (withoutLineEnd raw) = .ok line ∧
        Executed settings { s with history := s.history.push line } t s' (requested? s raw) := by
  rw [requested?]
  unfold processLine at h
  dsimp only at h
  generalize withoutLineEnd raw = line at h ⊢
  by_cases hblank : Text.isBlankText line
  · rw [if_pos hblank] at h
    obtain ⟨rfl, -, rfl⟩ := runs_pure.1 h
    exact .inl ⟨rfl, rfl, if_pos hblank⟩
  · rw [if_neg hblank, runs_get_bind] at h
    rw [if_neg hblank]
    rcases hresolved : s.history.resolve line with e | resolved
    · rw [hresolved] at h
      obtain ⟨rfl, -, rfl⟩ := runs_fail.1 h
      exact .inl ⟨rfl, rfl, rfl⟩
    · rw [hresolved] at h
      exact .inr ⟨resolved, Bool.eq_false_iff.2 hblank, rfl, runs_processResolved h hends⟩

end Shell

end JobShell
