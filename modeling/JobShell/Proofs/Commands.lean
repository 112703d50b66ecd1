import JobShell.Line
import JobShell.Proofs.Reaping

/-!
# What commands do to the table

Every command but the listing and the end of the shell only lets the table grow: `Advances` is
about the computations of which this is true. They keep the table in step with the children, wait
for children only, and poll none. `ensures_processLine` puts all commands together.
-/

namespace JobShell

namespace Shell

open Children

variable {α β : Type} {children : Finset Pid} {s : Session} {settings : Settings}

/-- How a computation has changed children and session, and with which trace: the table grew by the
processes launched. -/
structure Advanced (children : Finset Pid) (s : Session) (children' : Finset Pid) (s' : Session)
    (t : Trace) : Prop where
  tallies : Tallies children' s'.table.records
  grows : Grows t.launched.reverse s.table.records s'.table.records
  polled : t.polled = []

theorem Advanced.refl (h : Tallies children s.table.records) :
    Advanced children s children s [] := ⟨h, .refl _, rfl⟩

theorem Advanced.trans {children₁ children₂ : Finset Pid} {s₁ s₂ : Session} {t u : Trace}
    (h : Advanced children s children₁ s₁ t) (h' : Advanced children₁ s₁ children₂ s₂ u) :
    Advanced children s children₂ s₂ (t ++ u) where
  tallies := h'.tallies
  grows := by
    rw [Trace.launched_append, List.reverse_append]
    exact h.grows.trans h'.grows
  polled := by rw [Trace.polled_append, h.polled, h'.polled, List.append_nil]

/-- From any session whose table tallies with the children, if `P` holds of these, the computation
lets the table grow, and `Q` holds of the children at the end and of the value if there is one. -/
def Advances (P : Finset Pid → Prop) (x : Shell α) (Q : Finset Pid → α → Prop) : Prop :=
  ∀ children s, Tallies children s.table.records → P children →
    Ensures monitor (fun children' s' t r =>
      Advanced children s children' s' t ∧ ∀ a, r = .ok a → Q children' a) x children s

namespace Advances

variable {P : Finset Pid → Prop} {Q : Finset Pid → α → Prop} {R : Finset Pid → β → Prop}

theorem bind {x : Shell α} {f : α → Shell β} (hx : Advances P x Q)
    (hf : ∀ a, Advances (Q · a) (f a) R) : Advances P (x >>= f) R := by
  intro children s htallies hP
  refine (hx children s htallies hP).bind ?_ fun _ _ _ _ h => ⟨h.1, nofun⟩
  intro children₁ s₁ t a ⟨hfirst, hQ⟩
  refine (hf a children₁ s₁ hfirst.tallies (hQ a rfl)).mono ?_
  intro children₂ s₂ u r ⟨hsecond, hR⟩
  exact ⟨hfirst.trans hsecond, hR⟩

theorem of_quiet {x : Shell α} (hx : Quiet x) : Advances P x fun children _ => P children := by
  intro children s htallies hP
  refine (hx children s).mono ?_
  intro _ _ t _ h
  obtain ⟨rfl, rfl, hlaunched, hpolled⟩ := h
  refine ⟨⟨htallies, ?_, hpolled⟩, fun _ _ => hP⟩
  rw [hlaunched]
  exact .refl _

theorem pure {a : α} (h : ∀ children, P children → Q children a) :
    Advances P (Pure.pure a) Q := by
  intro children s htallies hP
  refine (ensures_pure a).2 ⟨.refl htallies, ?_⟩
  intro _ ha
  cases ha
  exact h children hP

/-- A computation without a value ensures anything of it. -/
theorem fail (e : ShellError) : Advances P (Shell.fail e : Shell α) Q := fun _ _ htallies _ =>
  (ensures_fail e).2 ⟨.refl htallies, nofun⟩

theorem mono {P' : Finset Pid → Prop} {Q' : Finset Pid → α → Prop} {x : Shell α}
    (hx : Advances P x Q) (hpre : ∀ children, P' children → P children)
    (hpost : ∀ children a, Q children a → Q' children a) : Advances P' x Q' := by
  intro children s htallies hP
  refine (hx children s htallies (hpre children hP)).mono ?_
  intro children' s' t r ⟨hadvanced, hQ⟩
  exact ⟨hadvanced, fun a ha => hpost _ _ (hQ a ha)⟩

end Advances

/-! ## Launching -/

/-- The processes are different children, so that they can be waited for one after the other. -/
def Waitable (children : Finset Pid) (pids : List Pid) : Prop :=
  pids.Nodup ∧ ∀ pid ∈ pids, pid ∈ children

theorem Waitable.cons {pid : Pid} {pids : List Pid} (h : Waitable children pids)
    (hpid : pid ∉ children) : Waitable (insert pid children) (pid :: pids) := by
  refine ⟨List.nodup_cons.2 ⟨fun hmem => hpid (h.2 pid hmem), h.1⟩, ?_⟩
  intro pid' hmem
  rcases List.mem_cons.1 hmem with rfl | hmem
  · exact Finset.mem_insert_self ..
  · exact Finset.mem_insert_of_mem (h.2 pid' hmem)

/-- A process that has just been made is entered into the table, and nothing can prevent this. -/
theorem ensures_track {pid : Pid} {pids : List Pid} {t : Trace} (command : Command)
    (e : Log.Event) (htallies : Tallies children s.table.records) (hpid : pid ∉ children)
    (hpids : Waitable children pids) (hlaunched : t.launched = [pid]) (hpolled : t.polled = []) :
    Ensures monitor (fun children' s' u r => Advanced children s children' s' (t ++ u) ∧
        ∀ a, r = .ok a → ∀ pid, a = .ok pid → Waitable children' (pid :: pids))
      (do log e; track pid command; return (.ok pid : Except Errno Pid))
      (insert pid children) s := by
  refine ensures_ask_bind.2 ⟨trivial, fun _ _ => ?_⟩
  rw [track, bind_assoc]
  refine ensures_ask_bind.2 ⟨trivial, fun _ _ => ?_⟩
  rw [ensures_bind, ensures_modifyTable]
  refine (ensures_pure ..).2 ⟨⟨htallies.cons_launched hpid command, ?_, ?_⟩, ?_⟩
  · rw [Trace.launched_append, hlaunched]
    exact .cons (.launched pid command) _
  · rw [Trace.polled_append, hpolled]
    rfl
  · intro _ hr _ ha
    cases hr
    cases ha
    exact hpids.cons hpid

theorem advances_spawn (settings : Settings) (stage : Stage) (role : Role) (pipe : Option Pipe)
    (pids : List Pid) :
    Advances (Waitable · pids) (spawn settings stage role pipe) fun children r =>
      ∀ pid, r = .ok pid → Waitable children (pid :: pids) := by
  intro children s htallies hpids
  rw [spawn, ensures_ask_bind]
  refine ⟨trivial, fun answer hanswer => ?_⟩
  rcases answer with e | pid
  · refine (ensures_pure ..).2 ⟨⟨htallies, .refl _, rfl⟩, ?_⟩
    intro _ ha
    cases ha
    exact nofun
  · simp only
    split
    · refine ensures_ask_bind.2 ⟨trivial, fun _ _ => ensures_ask_bind.2 ⟨trivial, fun _ _ => ?_⟩⟩
      exact ensures_track (t := [_, _, _]) _ _ htallies hanswer hpids rfl rfl
    · exact ensures_track (t := [_]) _ _ htallies hanswer hpids rfl rfl

theorem advances_spawnPair (first second : Stage) (pipe : Pipe) :
    Advances (Waitable · []) (spawnPair settings first second pipe) fun children r =>
      ∀ pids, r = .ok pids → Waitable children pids := by
  refine .bind (advances_spawn settings first _ _ []) fun answer => ?_
  rcases answer with e | writer
  · exact .bind (.of_quiet (.ask rfl)) fun _ => .pure fun _ _ => nofun
  · have hwriter := advances_spawn settings second .pipeReader (some pipe) [writer]
    refine .bind (hwriter.mono (fun _ h => h writer rfl) fun _ _ => id) fun answer => ?_
    rcases answer with e | reader
    · exact .bind (.of_quiet (.ask rfl)) fun _ => .pure fun _ _ => nofun
    · refine .bind (.of_quiet (.ask rfl)) fun _ => .pure fun children h => ?_
      intro _ ha
      cases ha
      obtain ⟨hnodup, hmem⟩ := h reader rfl
      exact ⟨by simpa [eq_comm] using hnodup, by simpa [and_comm] using hmem⟩

theorem advances_spawnStages (command : Command) :
    Advances (fun _ => True) (spawnStages settings command) Waitable := by
  have hnone : ∀ children, True → Waitable children [] := fun _ _ => ⟨.nil, nofun⟩
  rw [spawnStages]
  split
  · refine .bind ((advances_spawn settings _ _ _ []).mono hnone fun _ _ => id) fun answer => ?_
    rcases answer with e | pid
    · exact .fail _
    · exact .pure fun _ h => h pid rfl
  · refine .bind (.of_quiet (.ask rfl)) fun answer => ?_
    rcases answer with e | pipe
    · exact .fail _
    · refine .bind ((advances_spawnPair _ _ pipe).mono hnone fun _ _ => id) fun answer => ?_
      rcases answer with e | pids
      · exact .fail _
      · exact .pure fun _ h => h pids rfl

/-- A child that has been waited for is no child any more if it was found dead, but the others
are. -/
theorem Waitable.tail {pid : Pid} {pids : List Pid} (h : Waitable children (pid :: pids))
    (status : Option Status) : Waitable (seen children pid status) pids := by
  obtain ⟨hnot, hnodup⟩ := List.nodup_cons.1 h.1
  refine ⟨hnodup, fun pid' hmem => ?_⟩
  have hchild := h.2 pid' (List.mem_cons_of_mem _ hmem)
  rw [seen]
  split
  · exact Finset.mem_erase_of_ne_of_mem (ne_of_mem_of_not_mem hmem hnot) hchild
  · exact hchild

/-- Writing down how a child was found keeps the table in step, and no dead record comes alive. -/
theorem Advanced.observe {pid : Pid} {t : Trace} (htallies : Tallies children s.table.records)
    (hpid : pid ∈ children) (status : Status) (hlaunched : t.launched = [])
    (hpolled : t.polled = []) :
    Advanced children s (seen children pid (some status))
      { s with table := s.table.observe pid status } t where
  tallies := by
    by_cases h : status = .terminated
    · subst h
      exact htallies.settle_terminated
    · rw [seen, if_neg (by simpa using h)]
      exact htallies.settle_of_ne h hpid
  grows := by
    rw [hlaunched]
    refine .of_forall₂ (forall₂_updateFirst fun r hr => ⟨rfl, rfl, fun hdead => ?_⟩)
    exact absurd hdead (htallies.isLive_of_find? hpid hr)
  polled := hpolled

/-- Children are waited for one after the other. -/
theorem advances_awaitAll (pids : List Pid) :
    Advances (Waitable · pids) (awaitAll settings pids) fun _ _ => True := by
  induction pids with
  | nil => exact .pure fun _ _ => trivial
  | cons pid rest ih =>
    intro children s htallies hpids
    have hpid := hpids.2 pid (List.mem_cons_self ..)
    rw [awaitAll]
    refine (ensures_awaitChild hpid _).bind ?_ fun _ _ _ _ ⟨_, h, _⟩ => nomatch h
    intro _ s t status h
    obtain ⟨_, ⟨⟩, rfl, rfl, hlaunched, hpolled⟩ := h
    -- Between the wait and this note the table does not tally: the child may be gone already.
    refine ensures_ask_bind.2 ⟨trivial, fun _ _ => ?_⟩
    rw [ensures_bind, ensures_modifyTable]
    have hfirst := Advanced.observe htallies hpid status hlaunched hpolled
    refine (ih _ _ hfirst.tallies (hpids.tail _)).mono ?_
    intro children₂ s₂ u r h
    obtain ⟨hrest, -⟩ := h
    exact ⟨hfirst.trans ⟨hrest.tallies, hrest.grows, hrest.polled⟩, fun _ _ => trivial⟩

theorem advances_launch (command : Command) :
    Advances (fun _ => True) (launch settings command) fun _ _ => True := by
  rw [launch]
  split
  · exact .fail _
  · refine .bind (advances_spawnStages command) fun pids => ?_
    split
    · exact .bind (advances_awaitAll pids) fun _ => .pure fun _ _ => trivial
    · exact .pure fun _ _ => trivial

/-! ## Commands of the shell -/

theorem quiet_argument (arguments : List String) : Quiet (argument arguments) := by
  unfold argument
  split
  · exact .pure _
  · exact .fail _
  · exact .throw _

theorem quiet_changeDirectory (arguments : List String) : Quiet (changeDirectory arguments) := by
  refine .bind (quiet_argument arguments) fun path => ?_
  -- A path with a NUL never gets as far as the call.
  split
  · exact .fail _
  · refine .bind (.ask rfl) fun answer => ?_
    rcases answer with e | _
    · exact .fail _
    · exact .pure _

theorem quiet_writeAll (pieces : List String) : Quiet (writeAll pieces) :=
  .forM pieces fun piece => .write piece

theorem quiet_listHistory : Quiet listHistory := .bind .get fun _ => quiet_writeAll _

theorem advances_predict (pid : Pid) (status : Status) :
    Advances (fun _ => True) (modifyTable (·.predict pid status)) fun _ _ => True := by
  intro children s htallies _
  rw [ensures_modifyTable]
  refine ⟨⟨htallies.updateFirst (fun _ => rfl) fun _ => .rfl, ?_, rfl⟩, fun _ _ => trivial⟩
  exact .of_forall₂ (forall₂_updateFirst fun r _ => ⟨rfl, rfl, id⟩)

theorem advances_dispatch (pid : Pid) (control : Control) :
    Advances (fun _ => True) (dispatch pid control) fun _ _ => True := by
  refine .bind (.of_quiet .get) fun s => .bind (advances_predict pid _) fun _ => ?_
  refine .bind (.of_quiet (.log _)) fun _ => .bind (.of_quiet (.ask rfl)) fun answer => ?_
  rcases answer with e | _
  · exact .bind (.of_quiet (.log _)) fun _ => .fail _
  · exact .pure fun _ _ => trivial

theorem advances_actOnProcess (control : Control) (arguments : List String) :
    Advances (fun _ => True) (actOnProcess control arguments) fun _ _ => True := by
  refine .bind (.of_quiet (quiet_argument arguments)) fun arg => ?_
  split
  · exact advances_dispatch _ control
  · exact .fail _

/-! ## Lines -/

/-- The built-in command that a line asks for, if it can be read and asks for no programs. -/
def builtinOn? (line : String) : Option Builtin :=
  match Command.parse line with
  | .ok (some command) => builtin? command
  | _ => none

/-- The built-in command that a line of input asks for, perhaps by a reference to an earlier
line. -/
def requested? (s : Session) (raw : String) : Option Builtin :=
  if Text.isBlankText (withoutLineEnd raw) then
    none
  else
    match s.history.resolve (withoutLineEnd raw) with
    | .ok line => builtinOn? line
    | .error _ => none

/-- What processing a line does to the table, by the built-in command that the line asks for. -/
inductive Passed (children : Finset Pid) (before after : Table) (t : Trace) :
    Option Builtin → Prop where
  /-- A listing polls each child that the table has a record of, and each once. It drops the
  records that are dead then. -/
  | listed {seen : List Record} (launched : t.launched = []) (once : t.polled.Nodup)
      (polled : ∀ pid, pid ∈ t.polled ↔ pid ∈ children ∧ before.tracks pid)
      (follows : List.Forall₂ Record.Follows before.records seen)
      (reaped : after.records = seen.filter (·.IsLive)) : Passed children before after t (some .procs)
  /-- The end of the shell drops all records. -/
  | ended (launched : t.launched = []) (polled : t.polled = []) (dropped : after.records = []) :
      Passed children before after t (some .quit)
  /-- Everything else polls nobody, and the table grows by the processes launched. -/
  | grown {request : Option Builtin} (hprocs : request ≠ some .procs)
      (hquit : request ≠ some .quit) (polled : t.polled = [])
      (grows : Grows t.launched.reverse before.records after.records) :
      Passed children before after t request

theorem ensures_listProcesses (hprobe : settings.probe = .children)
    (h : Tallies children s.table.records) :
    Ensures monitor (fun children' s' t _ => Tallies children' s'.table.records ∧
        Passed children s.table s'.table t (some .procs))
      (listProcesses settings) children s := by
  refine (ensures_listAndReap hprobe h).bind ?_ fun _ _ _ _ ⟨⟨_, h⟩, _⟩ => nomatch h
  intro children₁ s₁ t entries h
  obtain ⟨-, seen, hrefreshed, hrecords⟩ := h
  refine (quiet_writeAll _ children₁ s₁).mono ?_
  intro _ _ u _ h
  obtain ⟨rfl, rfl, hlaunched, hpolled⟩ := h
  have htallies := hrefreshed.tallies
  have hlisted : (t ++ u).polled = livePids s.table.records := by
    rw [Trace.polled_append, hpolled, List.append_nil, hrefreshed.polled]
  rw [Finset.sdiff_empty] at htallies
  refine ⟨hrecords ▸ htallies.filter_isLive, .listed ?_ ?_ (fun pid => ?_) hrefreshed.follows hrecords⟩
  · rw [Trace.launched_append, hrefreshed.launched, hlaunched]
    rfl
  · rw [hlisted]
    exact h.nodup_livePids
  · rw [hlisted, h.mem_livePids_iff, Table.tracks_iff]

theorem ensures_of_advances (request : Option Builtin) {x : Shell α}
    (hx : Advances (fun _ => True) x fun _ _ => True)
    (hprocs : request ≠ some .procs) (hquit : request ≠ some .quit)
    (h : Tallies children s.table.records) :
    Ensures monitor (fun children' s' t _ => Tallies children' s'.table.records ∧
        Passed children s.table s'.table t request) x children s := by
  refine (hx children s h trivial).mono ?_
  intro children' s' t _ h
  obtain ⟨hadvanced, -⟩ := h
  exact ⟨hadvanced.tallies, .grown hprocs hquit hadvanced.polled hadvanced.grows⟩

theorem ensures_runBuiltin (hprobe : settings.probe = .children)
    (h : Tallies children s.table.records) (builtin : Builtin) (arguments : List String) :
    Ensures monitor (fun children' s' t _ => Tallies children' s'.table.records ∧
        Passed children s.table s'.table t (some builtin))
      (runBuiltin settings builtin arguments) children s := by
  unfold runBuiltin
  cases builtin with
  | cd =>
    refine ensures_of_advances _ ?_ nofun nofun h
    exact .bind (.of_quiet (quiet_changeDirectory arguments)) fun _ => .pure fun _ _ => trivial
  | procs =>
    refine (ensures_listProcesses hprobe h).bind ?_ fun _ _ _ _ => id
    intro children' s' t _ hlisted
    rw [ensures_pure, List.append_nil]
    exact hlisted
  | hist =>
    refine ensures_of_advances _ ?_ nofun nofun h
    exact .bind (.of_quiet quiet_listHistory) fun _ => .pure fun _ _ => trivial
  | control control =>
    refine ensures_of_advances _ ?_ nofun nofun h
    exact .bind (advances_actOnProcess control arguments) fun _ => .pure fun _ _ => trivial
  | quit =>
    show Ensures monitor _ (modify Session.shutdown >>= fun _ => pure _) _ _
    rw [ensures_bind, ensures_modify]
    exact (ensures_pure ..).2 ⟨trivial, .ended rfl rfl rfl⟩

theorem ensures_execute (hprobe : settings.probe = .children)
    (h : Tallies children s.table.records) (command : Command) :
    Ensures monitor (fun children' s' t _ => Tallies children' s'.table.records ∧
        Passed children s.table s'.table t (builtin? command))
      (execute settings command) children s := by
  unfold execute
  split
  next builtin hbuiltin =>
    rw [hbuiltin]
    exact ensures_runBuiltin hprobe h builtin _
  next hnone =>
    rw [hnone]
    refine ensures_of_advances none (.bind (.of_quiet .flush) fun _ => ?_) nofun nofun h
    refine .bind (advances_launch command) fun pids => ?_
    exact .bind (.of_quiet (.log _)) fun _ => .pure fun _ _ => trivial

theorem ensures_processResolved (hprobe : settings.probe = .children)
    (h : Tallies children s.table.records) (line : String) :
    Ensures monitor (fun children' s' t _ => Tallies children' s'.table.records ∧
        Passed children s.table s'.table t (builtinOn? line))
      (processResolved settings line) children s := by
  rw [processResolved, ensures_bind, ensures_modify, builtinOn?]
  generalize Command.parse line = parsed
  -- The session has the line in its history by now, and the same table as before.
  change Tallies children (Session.mk s.table (s.history.push line)).table.records at h
  rcases parsed with (e | _) | _ | command <;> dsimp only
  · exact ensures_of_advances none (.fail _) nofun nofun h
  · exact ensures_of_advances none (.of_quiet (.throw _)) nofun nofun h
  · exact ensures_of_advances none (.pure fun _ _ => trivial) nofun nofun h
  · exact ensures_execute hprobe h command

theorem ensures_processLine (hprobe : settings.probe = .children)
    (h : Tallies children s.table.records) (raw : String) :
    Ensures monitor (fun children' s' t _ => Tallies children' s'.table.records ∧
        Passed children s.table s'.table t (requested? s raw))
      (processLine settings raw) children s := by
  rw [processLine, requested?]
  -- What is a blank line, and what a line stands for, does not matter here.
  generalize withoutLineEnd raw = line
  show Ensures monitor _ (if Text.isBlankText line then _ else _) _ _
  by_cases hblank : Text.isBlankText line
  · rw [if_pos hblank, if_pos hblank]
    exact ensures_of_advances none (.pure fun _ _ => trivial) nofun nofun h
  · rw [if_neg hblank, if_neg hblank, ensures_bind, ensures_get]
    dsimp only
    generalize s.history.resolve line = resolved
    rcases resolved with e | line
    · exact ensures_of_advances none (.fail e) nofun nofun h
    · exact ensures_processResolved hprobe h line

end Shell

end JobShell
