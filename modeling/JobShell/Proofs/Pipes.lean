import JobShell.Machine.Host
import JobShell.Proofs.Plumbing

/-!
# The pipes of the machine

What a launch relies on is true of the machine. A pipe takes two descriptors of the shell that are
not open; to make a pipe, to close it, and to make a process does to the table of the shell what a
watcher of the launch believes; and a new process begins with a copy of this table
(`answer_makePipe`, `answer_closePipe`, `answer_fork`).
-/

namespace JobShell

/-- To close a descriptor that is not open changes nothing. -/
theorem Descriptors.close_of_get?_eq_none {δ : Type} {d : Descriptors δ} {n : Nat}
    (h : d.get? n = none) : d.close n = d := by
  have hall : ∀ x ∈ d.slots, decide (x.1 ≠ n) = true := fun x hx =>
    decide_eq_true (get?_eq_none_iff.1 h x hx)
  rw [close, List.filter_eq_self.2 hall]

namespace Machine.Kernel

variable {k k' : Kernel} {p : Process} {shell : Nat} {d : Descriptors Nat}

/-! ## Tables -/

/-- There is a process with the number, and this is its table. -/
def Holds (k : Kernel) (pid : Nat) (d : Descriptors Nat) : Prop :=
  ∃ p, k.process? pid = some p ∧ p.descriptors = d

theorem pid_of_process? {pid : Nat} (h : k.process? pid = some p) : p.pid = pid := by
  simpa using List.find?_some h

theorem holds_setDescriptors (h : k.process? p.pid = some p) (d : Descriptors Nat) :
    (k.setDescriptors p.pid d).Holds p.pid d := by
  have hpid : ∀ q : Process,
      (if q.pid = p.pid then { q with descriptors := d } else q).pid = q.pid := by
    intro q
    split <;> rfl
  refine ⟨{ p with descriptors := d }, ?_, rfl⟩
  rw [process?, setDescriptors, update, List.find?_map]
  simp only [Function.comp_def, hpid]
  change (k.process? p.pid).map _ = _
  rw [h, Option.map_some, if_pos rfl]

/-- One computation of the shell after another. -/
theorem bind_apply {α β : Type} {x : Guided α} {f : α → Guided β} {a : α} (h : x k = (.ok a, k')) :
    (x >>= f) k = f a k' := by
  change ExceptT.bindCont f (x k).1 (x k).2 = _
  rw [h]
  rfl

/-! ## Making a pipe -/

/-- A pipe takes two descriptors that are not open, and nothing else of the table changes. -/
theorem makePipe_eq_ok {readEnd writeEnd : Nat}
    (h : k.makePipe p true = .ok ((readEnd, writeEnd), k')) :
    p.descriptors.MayTake ⟨readEnd, writeEnd⟩ ∧
      ∃ (files : PipeFiles Nat) (k₁ : Kernel), k₁.processes = k.processes ∧
        k' = k₁.setDescriptors p.pid (p.descriptors.withPipe files ⟨readEnd, writeEnd⟩) := by
  unfold makePipe at h
  dsimp only [addFile] at h
  rcases hread : p.descriptors.install p.limit ⟨k.files.size, true⟩ with e | ⟨n, d₁⟩
  · rw [hread] at h
    cases h
  · rw [hread] at h
    change (d₁.install p.limit ⟨_, true⟩ >>= _) = _ at h
    rcases hwrite : d₁.install p.limit ⟨_, true⟩ with e | ⟨m, d₂⟩
    · rw [hwrite] at h
      cases h
    · rw [hwrite] at h
      cases h
      obtain ⟨htaken, rfl⟩ := Descriptors.mayTake_of_install hread hwrite
      refine ⟨htaken, ⟨_, _⟩, _, ?_, rfl⟩
      rfl

/-- The shell gets a pipe that its table may take, or none. -/
theorem answer_makePipe (h : k.Holds shell d) :
    ∃ answered files k', answer shell .makePipe k = (.ok answered, k') ∧
      (∀ pipe, answered = .ok pipe → d.MayTake pipe) ∧
      k'.Holds shell (d.afterExchange files ⟨.makePipe, answered⟩) := by
  obtain ⟨me, hshell, rfl⟩ := h
  obtain rfl := pid_of_process? hshell
  rw [answer, ownPipe, hshell]
  dsimp only
  rcases hmade : k.makePipe me true with e | ⟨⟨readEnd, writeEnd⟩, k₁⟩
  · exact ⟨.error e, ⟨0, 0⟩, k, rfl, nofun, me, hshell, rfl⟩
  · obtain ⟨htaken, files, k₂, hprocesses, rfl⟩ := makePipe_eq_ok hmade
    have hfound : k₂.process? me.pid = some me := by
      rw [process?, hprocesses]
      exact hshell
    refine ⟨.ok ⟨readEnd, writeEnd⟩, files, _, rfl, fun pipe hpipe => ?_,
      holds_setDescriptors hfound _⟩
    cases hpipe
    exact htaken

/-! ## Closing a pipe -/

theorem ownCall_close (fd : Nat) (h : k.Holds shell d) :
    ∃ a k', ownCall shell (.close fd) (.ok ()) k = (.ok a, k') ∧ k'.Holds shell (d.close fd) := by
  obtain ⟨me, hshell, rfl⟩ := h
  obtain rfl := pid_of_process? hshell
  rw [ownCall, hshell]
  dsimp only
  rw [perform]
  by_cases hopen : me.descriptors.isOpen fd = true
  · rw [if_pos hopen]
    exact ⟨_, _, rfl, holds_setDescriptors hshell _⟩
  · have hnone : me.descriptors.get? fd = none := by simpa [Descriptors.isOpen] using hopen
    rw [if_neg hopen, Descriptors.close_of_get?_eq_none hnone]
    exact ⟨_, k, rfl, me, hshell, rfl⟩

theorem answer_closePipe (files : PipeFiles Nat) (pipe : Pipe) (h : k.Holds shell d) :
    ∃ k', answer shell (.closePipe pipe) k = (.ok (), k') ∧
      k'.Holds shell (d.afterExchange files ⟨.closePipe pipe, ()⟩) := by
  obtain ⟨a, k₁, hread, hk₁⟩ := ownCall_close pipe.readEnd h
  obtain ⟨b, k₂, hwrite, hk₂⟩ := ownCall_close pipe.writeEnd hk₁
  refine ⟨k₂, ?_, hk₂⟩
  rw [answer, bind_apply hread, bind_apply hwrite]
  rfl

/-! ## Making a process -/

theorem answer_fork (files : PipeFiles Nat) (launch : Launch) (h : k.Holds shell d) :
    ∃ (number : Nat) (k' : Kernel), answer shell (.fork launch) k = (.ok (.ok ⟨number⟩), k') ∧
      (∃ p ∈ k'.processes, p.pid = number ∧ p.descriptors = d) ∧
      k'.Holds shell (d.afterExchange files ⟨.fork launch, .ok ⟨number⟩⟩) := by
  obtain ⟨me, hshell, rfl⟩ := h
  rw [answer, ownFork, hshell]
  refine ⟨k.nextPid, _, rfl, ?_, me, ?_, rfl⟩
  · exact ⟨_, List.mem_append_right _ (List.mem_singleton_self _), rfl, rfl⟩
  · -- The new process comes behind the shell.
    change (k.processes ++ _).find? _ = some me
    rw [List.find?_append, show k.processes.find? _ = some me from hshell]
    rfl

end Machine.Kernel

end JobShell
