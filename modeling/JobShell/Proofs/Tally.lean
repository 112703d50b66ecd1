import JobShell.Table
import Mathlib.Data.Finset.Basic
import Mathlib.Data.List.Forall2

/-!
# The table and the children

A record is live as long as its process has not been seen dead. `Tallies` relates the records to
the set of children that have not been reported dead: read from the newest to the oldest, a record
is live exactly if its number belongs to a child that no newer record stands for. It follows that
the live record of a number is unique and comes before the dead ones (`Tallies.unique`), so that the
operations of the table, which act on the first record that has a number, find it.

`Record.Follows` and `Grows` say what may become of single records and of the whole table.
-/

namespace JobShell

/-- Whether the process of a record has not been seen dead. -/
def Record.IsLive (r : Record) : Prop := r.observed ≠ .terminated

instance : DecidablePred Record.IsLive := fun r =>
  inferInstanceAs (Decidable (r.observed ≠ .terminated))

/-- The records tally with the children: a number that is among them has a live record, which is
the newest with that number, and all other records are dead. -/
def Tallies : Finset Pid → List Record → Prop
  | _, [] => True
  | children, r :: rest => (r.IsLive ↔ r.pid ∈ children) ∧ Tallies (children.erase r.pid) rest

/-- The numbers of the live records, newest first. -/
def livePids (rs : List Record) : List Pid := (rs.filter (·.IsLive)).map (·.pid)

section

variable {r : Record} {rs rs' : List Record}

theorem livePids_cons_of_live (h : r.IsLive) : livePids (r :: rs) = r.pid :: livePids rs := by
  simp [livePids, h]

theorem livePids_cons_of_dead (h : ¬ r.IsLive) : livePids (r :: rs) = livePids rs := by
  simp [livePids, h]

theorem livePids_append : livePids (rs ++ rs') = livePids rs ++ livePids rs' := by
  simp [livePids]

theorem length_livePids : (livePids rs).length = rs.countP (·.IsLive) := by
  rw [livePids, List.length_map, List.countP_eq_length_filter]

end

/-- Where nothing is expected, the table keeps the live records. -/
theorem Table.records_reap {t : Table} (h : ∀ r ∈ t.records, r.predicted = none) :
    t.reap.records = t.records.filter (·.IsLive) := by
  refine List.filter_congr fun r hr => ?_
  rw [Record.status, h r hr]
  rfl

theorem Table.tracks_iff {t : Table} {pid : Pid} :
    t.tracks pid ↔ ∃ r ∈ t.records, r.pid = pid := by
  simp [tracks, get?, List.find?_isSome]

/-- The first record that has a number is the one that is changed. -/
theorem Table.updateFirst_append_cons {f : Record → Record} {before after : List Record}
    {r : Record} (h : ∀ r' ∈ before, r'.pid ≠ r.pid) :
    updateFirst r.pid f (before ++ r :: after) = before ++ f r :: after := by
  induction before with
  | nil => exact if_pos rfl
  | cons r' before ih =>
    rw [List.cons_append, updateFirst, if_neg (h r' (List.mem_cons_self ..))]
    rw [ih fun r'' hr'' => h r'' (List.mem_cons_of_mem _ hr'')]
    rfl

namespace Tallies

variable {children : Finset Pid} {pid : Pid} {rs : List Record}

theorem append_iff {before after : List Record} :
    Tallies children (before ++ after) ↔
      Tallies children before ∧ Tallies (children \ (before.map (·.pid)).toFinset) after := by
  induction before generalizing children with
  | nil => simp [Tallies]
  | cons r before ih =>
    rw [List.cons_append, Tallies, Tallies, ih, and_assoc, List.map_cons, List.toFinset_cons,
      Finset.sdiff_insert, Finset.erase_sdiff_comm]

theorem mem_of_isLive {r : Record} (h : Tallies children rs) (hr : r ∈ rs) (hlive : r.IsLive) :
    r.pid ∈ children := by
  induction rs generalizing children with
  | nil => cases hr
  | cons r' rest ih =>
    rcases List.mem_cons.1 hr with rfl | hr
    · exact h.1.1 hlive
    · exact Finset.mem_of_mem_erase (ih h.2 hr)

/-- No record before a live one has its number, and those behind it that have it are dead. -/
theorem unique {before after : List Record} {r : Record}
    (h : Tallies children (before ++ r :: after)) (hlive : r.IsLive) :
    (∀ r' ∈ before, r'.pid ≠ r.pid) ∧ ∀ r' ∈ after, r'.pid = r.pid → ¬ r'.IsLive := by
  obtain ⟨-, hr, hafter⟩ := append_iff.1 h
  constructor
  · intro r' hr' heq
    have hnot := (Finset.mem_sdiff.1 (hr.1 hlive)).2
    rw [List.mem_toFinset, ← heq] at hnot
    exact hnot (List.mem_map_of_mem hr')
  · intro r' hr' heq hlive'
    have hmem := mem_of_isLive hafter hr' hlive'
    rw [heq] at hmem
    exact Finset.notMem_erase r.pid _ hmem

/-- The first record that has the number of a child is live. -/
theorem isLive_of_find? {r : Record} (h : Tallies children rs) (hpid : pid ∈ children)
    (hr : rs.find? (·.pid = pid) = some r) : r.IsLive := by
  obtain ⟨heq, before, after, rfl, hbefore⟩ := List.find?_eq_some_iff_append.1 hr
  obtain ⟨-, hlive, -⟩ := append_iff.1 h
  obtain rfl := of_decide_eq_true heq
  refine hlive.2 (Finset.mem_sdiff.2 ⟨hpid, fun hmem => ?_⟩)
  obtain ⟨r', hr', heq⟩ := List.mem_map.1 (List.mem_toFinset.1 hmem)
  simpa [heq] using hbefore r' hr'

/-- The live records stand for the children that the table has a record of. -/
theorem mem_livePids_iff (h : Tallies children rs) :
    pid ∈ livePids rs ↔ pid ∈ children ∧ ∃ r ∈ rs, r.pid = pid := by
  induction rs generalizing children with
  | nil => simp [livePids]
  | cons r rest ih =>
    have hrest := ih h.2
    -- A live record stands for a child, and no record behind it does so for the same child. A dead
    -- record stands for none.
    by_cases hlive : r.IsLive
    · have hr := h.1.1 hlive
      rw [livePids_cons_of_live hlive]
      grind
    · have hr := mt h.1.2 hlive
      rw [livePids_cons_of_dead hlive]
      grind

theorem nodup_livePids (h : Tallies children rs) : (livePids rs).Nodup := by
  induction rs generalizing children with
  | nil => exact .nil
  | cons r rest ih =>
    have hrest := ih h.2
    by_cases hlive : r.IsLive
    · rw [livePids_cons_of_live hlive, List.nodup_cons]
      refine ⟨fun hr => ?_, hrest⟩
      exact Finset.notMem_erase r.pid children ((mem_livePids_iff h.2).1 hr).1
    · rw [livePids_cons_of_dead hlive]
      exact hrest

/-! ### Operations -/

/-- A new process gets a number that no child has. -/
theorem cons_launched (h : Tallies children rs) (hpid : pid ∉ children) (command : Command) :
    Tallies (insert pid children) (.launched pid command :: rs) := by
  refine ⟨?_, ?_⟩
  · exact iff_of_true (nofun : Status.running ≠ .terminated) (Finset.mem_insert_self ..)
  · show Tallies ((insert pid children).erase pid) rs
    rw [Finset.erase_insert hpid]
    exact h

/-- What is only expected of a process does not count. -/
theorem updateFirst {f : Record → Record} (hpid : ∀ r, (f r).pid = r.pid)
    (hlive : ∀ r, (f r).IsLive ↔ r.IsLive) (h : Tallies children rs) :
    Tallies children (Table.updateFirst pid f rs) := by
  induction rs generalizing children with
  | nil => exact h
  | cons r rest ih =>
    rw [Table.updateFirst]
    split
    · rw [Tallies, hlive, hpid]
      exact h
    · exact ⟨h.1, ih h.2⟩

/-- A child that is seen alive has a live record, if any, and keeps it. -/
theorem settle_of_ne {status : Status} (hstatus : status ≠ .terminated)
    (h : Tallies children rs) (hpid : pid ∈ children) :
    Tallies children (Table.updateFirst pid (·.settle status) rs) := by
  induction rs generalizing children with
  | nil => trivial
  | cons r rest ih =>
    rw [Table.updateFirst]
    split
    next heq =>
      subst heq
      exact ⟨iff_of_true hstatus hpid, h.2⟩
    next hne => exact ⟨h.1, ih h.2 (Finset.mem_erase_of_ne_of_mem (Ne.symm hne) hpid)⟩

/-- A child that is seen dead is no child any more, and its record is not live any more. -/
theorem settle_terminated (h : Tallies children rs) :
    Tallies (children.erase pid) (Table.updateFirst pid (·.settle .terminated) rs) := by
  induction rs generalizing children with
  | nil => trivial
  | cons r rest ih =>
    rw [Table.updateFirst]
    split
    next heq =>
      subst heq
      refine ⟨iff_of_false (fun hlive => hlive rfl) (Finset.notMem_erase r.pid _), ?_⟩
      show Tallies ((children.erase r.pid).erase r.pid) rest
      rw [Finset.erase_idem]
      exact h.2
    next hne =>
      -- The child is taken away further down, which makes no difference to this record.
      refine ⟨h.1.trans (by rw [Finset.mem_erase, and_iff_right hne]), ?_⟩
      rw [Finset.erase_right_comm]
      exact ih h.2

/-- Dropping the dead records leaves the others as they are. -/
theorem filter_isLive (h : Tallies children rs) :
    Tallies children (rs.filter (·.IsLive)) := by
  induction rs generalizing children with
  | nil => trivial
  | cons r rest ih =>
    by_cases hlive : r.IsLive
    · rw [List.filter_cons_of_pos (by simpa using hlive)]
      exact ⟨h.1, ih h.2⟩
    · rw [List.filter_cons_of_neg (by simpa using hlive)]
      -- No child was taken away for a dead record.
      have hrest := h.2
      rw [Finset.erase_eq_of_notMem (mt h.1.2 hlive)] at hrest
      exact ih hrest

end Tallies

/-! ## What becomes of the records -/

namespace Record

/-- What may become of a record: once it is dead it stays dead. -/
structure Follows (r r' : Record) : Prop where
  pid : r'.pid = r.pid
  command : r'.command = r.command
  dead : r.observed = .terminated → r'.observed = .terminated

theorem Follows.refl (r : Record) : r.Follows r := ⟨rfl, rfl, id⟩

theorem Follows.trans {a b c : Record} (h : a.Follows b) (h' : b.Follows c) : a.Follows c :=
  ⟨h'.pid.trans h.pid, h'.command.trans h.command, h'.dead ∘ h.dead⟩

end Record

/-- What may become of the records: new ones come in front, for the processes that have been
launched, and all others follow in their place. -/
def Grows (launched : List Pid) (rs rs' : List Record) : Prop :=
  ∃ fresh seen, rs' = fresh ++ seen ∧ fresh.map (·.pid) = launched ∧
    List.Forall₂ Record.Follows rs seen

/-- Changing the first record that has a number leaves the others alone. -/
theorem forall₂_updateFirst {pid : Pid} {f : Record → Record} {rs : List Record}
    (h : ∀ r, rs.find? (·.pid = pid) = some r → r.Follows (f r)) :
    List.Forall₂ Record.Follows rs (Table.updateFirst pid f rs) := by
  induction rs with
  | nil => exact .nil
  | cons r rest ih =>
    rw [Table.updateFirst]
    split
    next heq =>
      refine .cons (h r (List.find?_cons_of_pos (by simpa using heq))) ?_
      exact List.forall₂_same.2 fun r _ => .refl r
    next hne =>
      refine .cons (.refl r) (ih fun r' hr' => h r' ?_)
      rw [List.find?_cons_of_neg (by simpa using hne)]
      exact hr'

theorem forall₂_follows_trans {as bs cs : List Record} (h : List.Forall₂ Record.Follows as bs)
    (h' : List.Forall₂ Record.Follows bs cs) : List.Forall₂ Record.Follows as cs := by
  induction h generalizing cs with
  | nil => exact h'
  | cons hr _ ih =>
    obtain ⟨c, rest, hc, hrest, rfl⟩ := List.forall₂_cons_left_iff.1 h'
    exact .cons (hr.trans hc) (ih hrest)

theorem map_pid_of_forall₂ {rs rs' : List Record} (h : List.Forall₂ Record.Follows rs rs') :
    rs'.map (·.pid) = rs.map (·.pid) := by
  induction h with
  | nil => rfl
  | cons hr _ ih => rw [List.map_cons, List.map_cons, hr.pid, ih]

namespace Grows

variable {launched : List Pid} {rs rs' : List Record}

theorem of_forall₂ (h : List.Forall₂ Record.Follows rs rs') : Grows [] rs rs' :=
  ⟨[], rs', rfl, rfl, h⟩

theorem refl (rs : List Record) : Grows [] rs rs :=
  of_forall₂ (List.forall₂_same.2 fun r _ => .refl r)

theorem cons (r : Record) (rs : List Record) : Grows [r.pid] rs (r :: rs) :=
  ⟨[r], rs, rfl, rfl, List.forall₂_same.2 fun r _ => .refl r⟩

/-- What is new at first is old later, and goes on like all that is old. -/
theorem trans {launched' : List Pid} {rs'' : List Record} (h : Grows launched rs rs')
    (h' : Grows launched' rs' rs'') : Grows (launched' ++ launched) rs rs'' := by
  obtain ⟨fresh, seen, rfl, rfl, hseen⟩ := h
  obtain ⟨fresh', seen', rfl, rfl, hseen'⟩ := h'
  have hfresh := (List.forall₂_take_append seen' fresh seen (R := flip _) hseen'.flip).flip
  have hold := (List.forall₂_drop_append seen' fresh seen (R := flip _) hseen'.flip).flip
  refine ⟨fresh' ++ seen'.take fresh.length, seen'.drop fresh.length, ?_, ?_, ?_⟩
  · rw [List.append_assoc, List.take_append_drop]
  · rw [List.map_append, map_pid_of_forall₂ hfresh]
  · exact forall₂_follows_trans hseen hold

end Grows

end JobShell
