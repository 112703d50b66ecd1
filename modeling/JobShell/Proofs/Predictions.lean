import JobShell.Builtin
import JobShell.Proofs.Monitor
import Mathlib.Data.List.Forall2

/-!
# Predictions and facts

A table holds facts, which were observed, and predictions, which were not. `perform` carries out one
operation on a table and `steps` any number of them, with any probe to ask for news. Main
statement: without the operations that predict, a history shows the same facts at every step, asks
about the same processes, lists the same lines and drops the same records
(`facts_independent_of_predictions`).

Two tables with the same facts differ in their predictions only. Asking for news settles these
without looking at them, so it makes such tables equal (`refresh_congr`).
-/

namespace JobShell

/-! ## Facts -/

namespace Record

/-- What has been observed, and nothing that is only expected. -/
def bare (r : Record) : Record := { r with predicted := none }

/-- Which process a record is about. -/
def subject (r : Record) : Pid × Command := (r.pid, r.command)

/-- What a record says that has been observed. -/
def fact (r : Record) : Pid × Command × Status := (r.pid, r.command, r.observed)

theorem bare_eq_iff {r r' : Record} : r.bare = r'.bare ↔ r.fact = r'.fact := by
  simp [bare, fact]

theorem afterReport_bare (r : Record) : r.bare.afterReport = r.afterReport := by
  funext news; cases news <;> rfl

/-- One record may become another when its process is asked for news. -/
structure Settles (r r' : Record) : Prop where
  subject : r.subject = r'.subject
  predicted : r'.predicted = none

theorem settles_bare (r : Record) : r.Settles r.bare := ⟨rfl, rfl⟩

theorem settles_afterReport (r : Record) (news : Option Status) :
    r.Settles (r.afterReport news) := by
  cases news <;> exact ⟨rfl, rfl⟩

end Record

namespace Table

/-- The table without its predictions. -/
def bare (t : Table) : Table := ⟨t.records.map Record.bare⟩

/-- What has been observed, newest record first. -/
def facts (t : Table) : List (Pid × Command × Status) := t.records.map Record.fact

/-- The processes that the table has records of, newest first. -/
def subjects (t : Table) : List (Pid × Command) := t.records.map Record.subject

/-- What stands in `xs` where `kept` says so. -/
def select {α : Type} : List Bool → List α → List α
  | true :: kept, x :: xs => x :: select kept xs
  | false :: kept, _ :: xs => select kept xs
  | _, _ => []

theorem bare_eq_iff {t t' : Table} : t.bare = t'.bare ↔ t.facts = t'.facts := by
  obtain ⟨rs⟩ := t
  obtain ⟨rs'⟩ := t'
  simp only [bare, facts, mk.injEq]
  induction rs generalizing rs' with
  | nil => cases rs' <;> simp
  | cons r rest ih =>
    cases rs' with
    | nil => simp
    | cons r' rest' =>
      simp only [List.map_cons, List.cons.injEq, Record.bare_eq_iff, ih]

/-- A change to one record goes unnoticed where it makes no difference to any record. -/
theorem map_updateFirst {β : Type} {pid : Pid} {f : Record → Record} {g : Record → β}
    (h : ∀ r, g (f r) = g r) (rs : List Record) : (updateFirst pid f rs).map g = rs.map g := by
  induction rs with
  | nil => rfl
  | cons r rest ih =>
    rw [updateFirst]
    split
    · rw [List.map_cons, List.map_cons, h]
    · rw [List.map_cons, List.map_cons, ih]

/-- A prediction is no fact. -/
theorem bare_predict (t : Table) (pid : Pid) (status : Status) :
    (t.predict pid status).bare = t.bare := by
  refine congrArg mk (map_updateFirst (fun _ => ?_) t.records)
  rfl

/-- Which record is observed does not depend on predictions. -/
theorem bare_observe (t : Table) (pid : Pid) (status : Status) :
    (t.observe pid status).bare = t.bare.observe pid status := by
  simp only [observe, bare, mk.injEq]
  induction t.records with
  | nil => rfl
  | cons r rest ih =>
    rw [updateFirst, List.map_cons, updateFirst]
    by_cases h : r.pid = pid
    · rw [if_pos h, if_pos (show r.bare.pid = pid from h)]
      rfl
    · rw [if_neg h, if_neg (show r.bare.pid ≠ pid from h), List.map_cons, ih]

theorem subjects_predict (t : Table) (pid : Pid) (status : Status) :
    (t.predict pid status).subjects = t.subjects := by
  refine map_updateFirst (fun _ => ?_) t.records
  rfl

theorem subjects_observe (t : Table) (pid : Pid) (status : Status) :
    (t.observe pid status).subjects = t.subjects := by
  refine map_updateFirst (fun _ => ?_) t.records
  rfl

theorem select_map_self {α : Type} (p : α → Bool) (xs : List α) :
    select (xs.map p) xs = xs.filter p := by
  induction xs with
  | nil => rfl
  | cons x rest ih =>
    rw [List.map_cons, List.filter_cons]
    cases p x with
    | false => exact ih
    | true => exact congrArg (x :: ·) ih

theorem map_select {α β : Type} (f : α → β) (kept : List Bool) (xs : List α) :
    (select kept xs).map f = select kept (xs.map f) := by
  induction xs generalizing kept with
  | nil => rcases kept with _ | ⟨_ | _, _⟩ <;> rfl
  | cons x rest ih =>
    rcases kept with _ | ⟨_ | _, kept⟩
    · rfl
    · exact ih kept
    · exact congrArg (f x :: ·) (ih kept)

theorem select_map {α β : Type} (p : α → Bool) (f : α → β) (xs : List α) :
    select (xs.map p) (xs.map f) = (xs.filter p).map f := by
  rw [← map_select, select_map_self]

theorem select_sublist {α : Type} (kept : List Bool) (xs : List α) :
    (select kept xs).Sublist xs := by
  induction xs generalizing kept with
  | nil => rcases kept with _ | ⟨_ | _, _⟩ <;> exact .slnil
  | cons x rest ih =>
    rcases kept with _ | ⟨_ | _, kept⟩
    · exact List.nil_sublist _
    · exact (ih kept).cons x
    · exact (ih kept).cons_cons x

theorem map_status_entries (t : Table) :
    t.entries.map (·.status) = t.records.map Record.status := by
  refine List.ext_getElem (by simp [entries]) fun i _ _ => ?_
  simp [entries]

theorem subjects_eq_of_settles {t t' : Table}
    (h : List.Forall₂ Record.Settles t.records t'.records) : t'.subjects = t.subjects := by
  have hall := h.imp fun _ _ h => h.subject
  have hmap := List.forall₂_map_left_iff.2 (List.forall₂_map_right_iff.2 hall)
  exact (List.forall₂_eq_eq_eq ▸ hmap).symm

theorem predicted_eq_none_of_settles {t t' : Table}
    (h : List.Forall₂ Record.Settles t.records t'.records) :
    ∀ r ∈ t'.records, r.predicted = none := by
  intro r hr
  obtain ⟨i, hi, rfl⟩ := List.mem_iff_getElem.1 hr
  exact (h.get (h.length_eq ▸ hi) hi).predicted

/-- A status shows whether a record is dropped. -/
theorem subjects_reap (t : Table) :
    t.reap.subjects =
      select ((t.records.map Record.status).map (· ≠ .terminated)) t.subjects := by
  rw [List.map_map]
  exact (select_map ..).symm

/-! ## Asking for news -/

section Refresh

variable {m : Type → Type} [Monad m] (poll : Pid → m (Option Status))

/-- What is asked, and what comes of it, does not depend on predictions. -/
theorem refreshRecord_bare (r : Record) : refreshRecord poll r.bare = refreshRecord poll r := by
  rw [refreshRecord, refreshRecord, Record.afterReport_bare]
  rfl

theorem refreshRecords_bare (rs : List Record) :
    refreshRecords poll (rs.map Record.bare) = refreshRecords poll rs := by
  induction rs with
  | nil => rfl
  | cons r rest ih => rw [List.map_cons, refreshRecords, refreshRecords, refreshRecord_bare, ih]

theorem refresh_bare (t : Table) : refresh poll t.bare = refresh poll t := by
  rw [refresh, refresh, bare, refreshRecords_bare]

/-- Two tables with the same facts give the same table when they are refreshed. -/
theorem refresh_congr {t t' : Table} (h : t.bare = t'.bare) : refresh poll t = refresh poll t' := by
  rw [← refresh_bare, h, refresh_bare]

end Refresh

section

variable {σ : Type} (poll : Pid → StateM σ (Option Status))

theorem settles_refreshRecord (r : Record) (s : σ) :
    r.Settles ((refreshRecord poll r).run s).1 := by
  rw [refreshRecord]
  split
  · exact r.settles_bare
  · exact r.settles_afterReport _

/-- A refresh leaves the records in their places and nothing that is only expected. -/
theorem settles_refresh (t : Table) (s : σ) :
    List.Forall₂ Record.Settles t.records ((t.refresh poll).run s).1.records := by
  have hrecords : ∀ rs s, List.Forall₂ Record.Settles rs ((refreshRecords poll rs).run s).1 := by
    intro rs
    induction rs with
    | nil => exact fun _ => .nil
    | cons r rest ih => exact fun s => .cons (settles_refreshRecord poll r s) (ih _)
  exact hrecords t.records s

end

end Table

/-! ## Operations -/

/-- How the system answers calls during one operation. -/
abbrev Answers : Type := (c : Call) → c.Answer

/-- A use of the process table. -/
inductive Operation where
  | insert (pid : Pid) (command : Command)
  /-- Write down what is expected of a process. -/
  | predict (pid : Pid) (status : Status)
  /-- Send the signal of a control command. -/
  | dispatch (pid : Pid) (control : Control)
  /-- Write down what a process has been seen doing. -/
  | observe (pid : Pid) (status : Status)
  | refresh
  | listAndReap
  | destroy
  deriving DecidableEq, Repr

namespace Operation

/-- Whether an operation does more than write down what is expected. -/
def isFactual : Operation → Bool
  | predict _ _ | dispatch _ _ => false
  | _ => true

/-- Whether an operation asks for news of all processes. -/
def refreshes : Operation → Bool
  | refresh | listAndReap => true
  | _ => false

/-- The table after a control command has been sent. -/
def afterDispatch (answers : Answers) (pid : Pid) (control : Control) (t : Table) : Table :=
  (Program.run (m := Id) answers
    ((Shell.dispatch pid control).run ⟨t, Session.fresh.history⟩ : Program _)).2.table

/-- What an operation lists, and the table after it. -/
def perform {m : Type → Type} [Monad m] (poll : Pid → m (Option Status)) (answers : Answers)
    (t : Table) : Operation → m (List Entry × Table)
  | insert pid command => return ([], t.insert pid command)
  | predict pid status => return ([], t.predict pid status)
  | dispatch pid control => return ([], afterDispatch answers pid control t)
  | observe pid status => return ([], t.observe pid status)
  | refresh => return ([], ← t.refresh poll)
  | listAndReap => t.listAndReap poll
  | destroy => return ([], .empty)

/-- One operation that has been carried out. -/
structure Step where
  operation : Operation
  before : Table
  /-- The processes that were asked about, in order. -/
  polled : List Pid
  listed : List Entry
  after : Table

section

variable {σ : Type}

/-- A probe, with a note of each process that it is asked about. -/
def noting (probe : Pid → StateM σ (Option Status)) (pid : Pid) :
    StateM (List Pid × σ) (Option Status) := fun (polled, s) =>
  let (news, s) := probe pid s
  (news, polled ++ [pid], s)

/-- Carries out one operation. -/
def step (probe : Pid → StateM σ (Option Status)) (answers : Answers) (operation : Operation)
    (t : Table) : StateM σ Step := fun s =>
  let ((listed, after), polled, s) := (operation.perform (noting probe) answers t).run ([], s)
  ({ operation, before := t, polled, listed, after }, s)

/-- Carries out operations one after the other. The system answers the calls of each as it
likes. -/
def steps (probe : Pid → StateM σ (Option Status)) :
    (Nat → Answers) → List Operation → Table → StateM σ (List Step)
  | _, [], _ => return []
  | answers, operation :: rest, t => do
    let step ← operation.step probe (answers 0) t
    return step :: (← steps probe (fun n => answers (n + 1)) rest step.after)

end

namespace Step

/-- Whether the operation did more than write down what is expected. -/
def isFactual (step : Step) : Bool := step.operation.isFactual

/-- The process that was entered. -/
def entered (step : Step) : List (Pid × Command) :=
  match step.operation with
  | .insert pid command => [(pid, command)]
  | _ => []

/-- For each record of the table before, whether it was kept. -/
def kept (step : Step) : List Bool :=
  match step.operation with
  | .listAndReap => step.listed.map (·.status ≠ .terminated)
  | .destroy => step.before.records.map fun _ => false
  | _ => step.before.records.map fun _ => true

/-- Two steps that differ at most in what was predicted before, if they do not refresh the table,
and not at all in the table that they leave behind, if they do. -/
structure Agrees (a b : Step) : Prop where
  operation : a.operation = b.operation
  polled : a.polled = b.polled
  listed : a.listed = b.listed
  kept : a.kept = b.kept
  facts : a.after.facts = b.after.facts
  refreshed : a.operation.refreshes →
    a.after = b.after ∧ ∀ r ∈ a.after.records, r.predicted = none

end Step

/-! ### Single operations -/

theorem run_call {α : Type} (answers : Answers) {c : Call} (next : c.Answer → Program α) :
    Program.run (m := Id) answers (.call c next) =
      Program.run (m := Id) answers (next (answers c)) := rfl

/-- A signal that cannot be sent leaves the same table behind as one that can. -/
theorem afterDispatch_eq (answers : Answers) (pid : Pid) (control : Control) (t : Table) :
    afterDispatch answers pid control t = t.predict pid control.predicted := by
  rw [afterDispatch, Shell.dispatch, Shell.run_get_bind, Shell.modifyTable, Shell.run_modify_bind,
    Shell.log, Shell.run_ask_bind, run_call, Shell.run_ask_bind, run_call]
  rcases answers (.kill pid control.signal) with e | _ <;> rfl

/-- The answers of the system make no difference to an operation. -/
theorem perform_answers {m : Type → Type} [Monad m] (poll : Pid → m (Option Status))
    (answers answers' : Answers) (t : Table) (operation : Operation) :
    operation.perform poll answers t = operation.perform poll answers' t := by
  cases operation <;> first | rfl | simp only [perform, afterDispatch_eq]

section

variable {τ : Type} (poll : Pid → StateM τ (Option Status)) (answers answers' : Answers)
  {operation : Operation} {t t' : Table}

/-- A refresh looks at facts only. -/
theorem perform_eq_of_refreshes (hrefreshes : operation.refreshes) (h : t.bare = t'.bare) :
    operation.perform poll answers t = operation.perform poll answers' t' := by
  cases operation with
  | refresh => rw [perform, perform, Table.refresh_congr poll h]
  | listAndReap =>
    rw [perform, perform, Table.listAndReap, Table.listAndReap, Table.refresh_congr poll h]
  | _ => cases hrefreshes

theorem predicted_eq_none_of_refreshes (hrefreshes : operation.refreshes) (s : τ) :
    ∀ r ∈ ((operation.perform poll answers t).run s).1.2.records, r.predicted = none := by
  have hrefreshed := Table.predicted_eq_none_of_settles (t.settles_refresh poll s)
  cases operation with
  | refresh => exact hrefreshed
  | listAndReap => exact fun r hr => hrefreshed r (List.mem_of_mem_filter hr)
  | _ => cases hrefreshes

/-- An operation that predicts nothing shows the same on tables with the same facts, and the facts
are still the same afterwards. -/
theorem perform_congr (hfactual : operation.isFactual) (h : t.bare = t'.bare) (s : τ) :
    ((operation.perform poll answers t).run s).1.1 =
        ((operation.perform poll answers' t').run s).1.1 ∧
      ((operation.perform poll answers t).run s).1.2.bare =
        ((operation.perform poll answers' t').run s).1.2.bare ∧
      ((operation.perform poll answers t).run s).2 =
        ((operation.perform poll answers' t').run s).2 := by
  cases operation with
  | predict | dispatch => cases hfactual
  | refresh | listAndReap =>
    rw [perform_eq_of_refreshes poll answers answers' rfl h]
    exact ⟨rfl, rfl, rfl⟩
  | insert pid command => exact ⟨rfl, congrArg (Table.insert · pid command) h, rfl⟩
  | observe pid status =>
    refine ⟨rfl, ?_, rfl⟩
    show (t.observe pid status).bare = (t'.observe pid status).bare
    rw [Table.bare_observe, Table.bare_observe, h]
  | destroy => exact ⟨rfl, rfl, rfl⟩

/-- A prediction asks nobody, lists nothing and changes no fact. -/
theorem perform_of_not_isFactual (hpredicts : operation.isFactual = false) :
    ∃ t', operation.perform poll answers t = pure ([], t') ∧ t'.bare = t.bare := by
  cases operation with
  | predict pid status => exact ⟨_, rfl, t.bare_predict pid status⟩
  | dispatch pid control =>
    refine ⟨_, rfl, ?_⟩
    rw [afterDispatch_eq]
    exact t.bare_predict pid _
  | _ => cases hpredicts

end

/-! ### Single steps -/

section

variable {σ : Type} (probe : Pid → StateM σ (Option Status)) (answers answers' : Answers)
  {operation : Operation} {t t' : Table}

/-- What a step shows of what was dropped is true. -/
theorem subjects_after_step (s : σ) :
    ((operation.step probe answers t).run s).1.after.subjects =
      ((operation.step probe answers t).run s).1.entered ++
        Table.select ((operation.step probe answers t).run s).1.kept t.subjects := by
  have hall : Table.select (t.records.map fun _ => true) t.subjects = t.subjects := by
    rw [Table.subjects, Table.select_map, List.filter_true]
  have hrefreshed := Table.subjects_eq_of_settles (t.settles_refresh (noting probe) ([], s))
  cases operation with
  | insert pid command => exact congrArg ((pid, command) :: ·) hall.symm
  | predict pid status => exact (t.subjects_predict pid status).trans hall.symm
  | dispatch pid control =>
    show (afterDispatch answers pid control t).subjects = _
    rw [afterDispatch_eq]
    exact (t.subjects_predict pid _).trans hall.symm
  | observe pid status => exact (t.subjects_observe pid status).trans hall.symm
  | refresh => exact hrefreshed.trans hall.symm
  | listAndReap =>
    show ((t.refresh (noting probe)).run ([], s)).1.reap.subjects = _
    rw [Table.subjects_reap, ← Table.map_status_entries, List.map_map, hrefreshed]
    rfl
  | destroy =>
    show [] = Table.select (t.records.map fun _ => false) t.subjects
    rw [Table.subjects, Table.select_map, List.filter_false]
    rfl

theorem map_const_records {α : Type} (h : t.bare = t'.bare) (a : α) :
    t.records.map (fun _ => a) = t'.records.map fun _ => a := by
  have hlength := congrArg (fun t : Table => t.records.length) h
  simp only [Table.bare, List.length_map] at hlength
  rw [List.map_const', List.map_const', hlength]

/-- On tables with the same facts an operation that predicts nothing takes steps that agree. -/
theorem agrees_step (hfactual : operation.isFactual) (h : t.bare = t'.bare) (s : σ) :
    Step.Agrees ((operation.step probe answers t).run s).1
        ((operation.step probe answers' t').run s).1 ∧
      ((operation.step probe answers t).run s).2 =
        ((operation.step probe answers' t').run s).2 := by
  obtain ⟨hlisted, hbare, hstate⟩ :=
    perform_congr (noting probe) answers answers' hfactual h ([], s)
  have hpolled := congrArg Prod.fst hstate
  have hprobe := congrArg Prod.snd hstate
  refine ⟨⟨rfl, hpolled, hlisted, ?_, Table.bare_eq_iff.1 hbare, ?_⟩, hprobe⟩
  · cases operation with
    | listAndReap => exact congrArg (List.map _) hlisted
    | _ => exact map_const_records h _
  · intro hrefreshes
    change operation.refreshes at hrefreshes
    refine ⟨?_, predicted_eq_none_of_refreshes _ answers hrefreshes ([], s)⟩
    have hperform := perform_eq_of_refreshes (noting probe) answers answers' hrefreshes h
    exact congrArg (fun x => (x.run ([], s)).1.2) hperform

/-- A prediction asks nobody and changes no fact. -/
theorem step_of_not_isFactual (hpredicts : operation.isFactual = false) (s : σ) :
    ((operation.step probe answers t).run s).1.polled = [] ∧
      ((operation.step probe answers t).run s).1.after.bare = t.bare ∧
      ((operation.step probe answers t).run s).2 = s := by
  obtain ⟨t', hperform, hbare⟩ :=
    perform_of_not_isFactual (noting probe) answers (t := t) hpredicts
  unfold step
  rw [hperform]
  exact ⟨rfl, hbare, rfl⟩

end

/-! ## Histories -/

section

variable {σ : Type} (probe : Pid → StateM σ (Option Status))

theorem run_steps_cons (answers : Nat → Answers) (operation : Operation) (rest : List Operation)
    (t : Table) (s : σ) :
    (steps probe answers (operation :: rest) t).run s =
      let first := (operation.step probe (answers 0) t).run s
      let later := (steps probe (fun n => answers (n + 1)) rest first.1.after).run first.2
      (first.1 :: later.1, later.2) := rfl

/-- Deleting the operations that predict leaves steps that agree. -/
theorem forall₂_agrees_steps (answers answers' : Nat → Answers) (operations : List Operation)
    {t t' : Table} (h : t.bare = t'.bare) (s : σ) :
    let whole := (steps probe answers operations t).run s
    let without := (steps probe answers' (operations.filter (·.isFactual)) t').run s
    List.Forall₂ Step.Agrees (whole.1.filter (·.isFactual)) without.1 ∧
      whole.1.flatMap (·.polled) = without.1.flatMap (·.polled) ∧ whole.2 = without.2 := by
  induction operations generalizing answers answers' t t' s with
  | nil => exact ⟨.nil, rfl, rfl⟩
  | cons operation rest ih =>
    cases hfactual : operation.isFactual with
    | false =>
      -- Only the whole history takes this step, and it does so unnoticed.
      obtain ⟨hpolled, hbare, hprobe⟩ :=
        step_of_not_isFactual probe (answers 0) (t := t) hfactual s
      have hoperation : ¬ operation.isFactual = true := by rw [hfactual]; exact Bool.false_ne_true
      have hstep : ¬ ((operation.step probe (answers 0) t).run s).1.isFactual = true := hoperation
      rw [List.filter_cons_of_neg hoperation, run_steps_cons]
      dsimp only
      rw [List.filter_cons_of_neg hstep, List.flatMap_cons, hpolled, hprobe]
      exact ih _ _ (hbare.trans h) s
    | true =>
      obtain ⟨hagrees, hprobe⟩ :=
        agrees_step probe (answers 0) (answers' 0) hfactual h s
      obtain ⟨hlater, hpolled, hfinal⟩ := ih (fun n => answers (n + 1)) (fun n => answers' (n + 1))
        (Table.bare_eq_iff.2 hagrees.facts) ((operation.step probe (answers' 0) t').run s).2
      have hstep : ((operation.step probe (answers 0) t).run s).1.isFactual = true := hfactual
      rw [List.filter_cons_of_pos hfactual, run_steps_cons, run_steps_cons]
      dsimp only
      rw [List.filter_cons_of_pos hstep, List.flatMap_cons, List.flatMap_cons, hagrees.polled,
        hprobe]
      exact ⟨.cons hagrees hlater, congrArg (_ ++ ·) hpolled, hfinal⟩

theorem step_answers (answers answers' : Answers) (operation : Operation) (t : Table) :
    operation.step probe answers t = operation.step probe answers' t := by
  funext s
  unfold step
  rw [perform_answers _ answers answers']

/-- The answers of the system make no difference to a history. -/
theorem steps_answers (answers answers' : Nat → Answers) (operations : List Operation) (t : Table) :
    steps probe answers operations t = steps probe answers' operations t := by
  induction operations generalizing answers answers' t with
  | nil => rfl
  | cons operation rest ih =>
    rw [steps, steps, step_answers probe (answers 0) (answers' 0)]
    congr 1
    funext step
    rw [ih _ fun n => answers' (n + 1)]

/-- Every step of a history shows what was entered and what was dropped. -/
theorem subjects_after_of_mem_steps (answers : Nat → Answers) (operations : List Operation)
    (t : Table) (s : σ) (step : Step)
    (hstep : step ∈ ((steps probe answers operations t).run s).1) :
    step.after.subjects = step.entered ++ Table.select step.kept step.before.subjects := by
  induction operations generalizing answers t s with
  | nil => cases hstep
  | cons operation rest ih =>
    rw [run_steps_cons] at hstep
    rcases List.mem_cons.1 hstep with rfl | hstep
    · exact subjects_after_step ..
    · exact ih _ _ _ hstep

/-- Predictions do not reach the facts. Without the operations that predict, a history asks about
the same processes in the same order, takes the probe to the same state, and takes steps that list
the same lines, drop the same records and leave the same facts; after a refresh the tables are the
same in everything and no prediction is left. And whether a signal can be sent makes no difference
to any table. -/
theorem facts_independent_of_predictions (answers answers' : Nat → Answers)
    (operations : List Operation) (t : Table) (s : σ) :
    let whole := (steps probe answers operations t).run s
    let without := (steps probe answers' (operations.filter (·.isFactual)) t).run s
    whole.1.flatMap (·.polled) = without.1.flatMap (·.polled) ∧ whole.2 = without.2 ∧
      List.Forall₂ Step.Agrees (whole.1.filter (·.isFactual)) without.1 ∧
      (∀ step ∈ whole.1 ++ without.1,
        step.after.subjects = step.entered ++ Table.select step.kept step.before.subjects) ∧
      ∀ answers'', (steps probe answers'' operations t).run s = whole := by
  obtain ⟨hagrees, hpolled, hprobe⟩ := forall₂_agrees_steps probe answers answers' operations rfl s
  refine ⟨hpolled, hprobe, hagrees, ?_, fun answers'' => ?_⟩
  · intro step hstep
    rcases List.mem_append.1 hstep with hstep | hstep
    · exact subjects_after_of_mem_steps probe _ _ _ _ step hstep
    · exact subjects_after_of_mem_steps probe _ _ _ _ step hstep
  · rw [steps_answers probe answers'' answers]

end

end Operation

end JobShell
