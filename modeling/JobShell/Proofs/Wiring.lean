import JobShell.Wiring
import Mathlib.Data.List.Nodup
import Mathlib.Data.List.Perm.Subperm
import Mathlib.Data.List.Range
import Mathlib.Tactic.Set
import Mathlib.Tactic.ByContra

/-!
# The table of a new process

Which open files the program of a stage starts with. `Wiring.wire_cases` says what becomes of the
table that a new process gets; `Gives` says which tables the shell gives, and `Gives.wired` what
comes of those.
-/

namespace JobShell

namespace Descriptors

variable {δ : Type} {d d' : Descriptors δ}

/-! ## Tables -/

theorem get?_eq_none_iff {n : Nat} : d.get? n = none ↔ ∀ x ∈ d.slots, x.1 ≠ n := by
  rw [get?, List.lookup_eq_none_iff]
  refine forall₂_congr fun x _ => ?_
  rw [bne_iff_ne, ne_comm]

/-- A descriptor that is not open is not open in the next program. -/
theorem get?_afterExec_eq_none {n : Nat} (h : d.get? n = none) : d.afterExec.get? n = none :=
  get?_eq_none_iff.2 fun x hx => get?_eq_none_iff.1 h x (List.mem_of_mem_filter hx)

theorem mem_of_get?_afterExec {n : Nat} {slot : Slot δ} (h : d.afterExec.get? n = some slot) :
    (n, slot) ∈ d.slots := by
  obtain ⟨before, after, hsplit, -⟩ := List.lookup_eq_some_iff.1 h
  refine List.mem_of_mem_filter (p := (!·.2.closeOnExec)) ?_
  show (n, slot) ∈ d.afterExec.slots
  rw [hsplit]
  exact List.mem_append_right _ List.mem_cons_self

theorem afterExec_close (d : Descriptors δ) (n : Nat) :
    (d.close n).afterExec = d.afterExec.close n := by
  rw [close, afterExec, close, afterExec, List.filter_filter, List.filter_filter]
  simp only [Bool.and_comm]

theorem afterExec_set_keep (d : Descriptors δ) (n : Nat) (file : δ) :
    (d.set n ⟨file, false⟩).afterExec = d.afterExec.set n ⟨file, false⟩ := by
  rw [set, set, ← afterExec_close, afterExec, List.filter_cons_of_pos rfl]
  rfl

theorem afterExec_set_drop (d : Descriptors δ) (n : Nat) (file : δ) :
    (d.set n ⟨file, true⟩).afterExec = d.afterExec.close n := by
  rw [set, ← afterExec_close, afterExec, List.filter_cons_of_neg (by simp)]
  rfl

/-- The lowest number that is not open is not open: there are more numbers to choose from than
descriptors. -/
theorem get?_lowestFree (d : Descriptors δ) (least : Nat) : d.get? (d.lowestFree least) = none := by
  rw [lowestFree]
  set candidates := (List.range (d.slots.length + 1)).map (least + ·) with hcandidates
  rcases hfound : candidates.find? (!d.isOpen ·) with _ | n
  · -- All candidates would be open, and they are one more than there are descriptors.
    exfalso
    have hopen : ∀ n ∈ candidates, n ∈ d.slots.map Prod.fst := by
      intro n hn
      have hn := List.find?_eq_none.1 hfound n hn
      by_contra hnot
      refine hn ?_
      have hnone : d.get? n = none := get?_eq_none_iff.2 fun x hx heq =>
        hnot (heq ▸ List.mem_map_of_mem hx)
      simp [isOpen, hnone]
    have hnodup : candidates.Nodup :=
      List.nodup_range.map fun _ _ h => Nat.add_left_cancel h
    have hlength := (hnodup.subperm hopen).length_le
    rw [hcandidates, List.length_map, List.length_map, List.length_range] at hlength
    omega
  · have hfree := List.find?_some hfound
    simpa [isOpen] using hfree

theorem free?_cases (d : Descriptors δ) (limit : Option Nat) (least : Nat) :
    d.free? limit least = .ok (d.lowestFree least) ∨
      d.free? limit least = .error .tooManyFiles ∧ ∃ bound, limit = some bound := by
  rcases limit with _ | bound
  · exact .inl rfl
  · rw [free?]
    split
    · exact .inl rfl
    · exact .inr ⟨rfl, bound, rfl⟩

theorem eq_set_of_install {limit : Option Nat} {slot : Slot δ} {n : Nat}
    (h : d.install limit slot = .ok (n, d')) : d.get? n = none ∧ d' = d.set n slot := by
  rw [install] at h
  rcases d.free?_cases limit 0 with hfree | ⟨hfree, -⟩
  · rw [hfree] at h
    cases h
    exact ⟨d.get?_lowestFree 0, rfl⟩
  · rw [hfree] at h
    cases h

/-- Two tables look the same, now and in the next program. -/
def Alike (d d' : Descriptors δ) : Prop :=
  ∀ n, d.get? n = d'.get? n ∧ d.afterExec.get? n = d'.afterExec.get? n

theorem Alike.refl (d : Descriptors δ) : d.Alike d := fun _ => ⟨rfl, rfl⟩

theorem Alike.trans {d'' : Descriptors δ} (h : d.Alike d') (h' : d'.Alike d'') : d.Alike d'' :=
  fun n => ⟨(h n).1.trans (h' n).1, (h n).2.trans (h' n).2⟩

theorem Alike.close (h : d.Alike d') (n : Nat) : (d.close n).Alike (d'.close n) := by
  intro m
  rw [get?_close, get?_close, afterExec_close, afterExec_close, get?_close, get?_close, (h m).1,
    (h m).2]
  exact ⟨rfl, rfl⟩

theorem Alike.set (h : d.Alike d') (n : Nat) (file : δ) :
    (d.set n ⟨file, false⟩).Alike (d'.set n ⟨file, false⟩) := by
  intro m
  rw [get?_set, get?_set, afterExec_set_keep, afterExec_set_keep, get?_set, get?_set, (h m).1,
    (h m).2]
  exact ⟨rfl, rfl⟩

/-- A descriptor that is only used for a moment leaves nothing behind. -/
theorem alike_of_moment {n m : Nat} (file : δ) (hfree : d.get? n = none) (hne : n ≠ m) :
    (((d.set n ⟨file, true⟩).set m ⟨file, false⟩).close n).Alike (d.set m ⟨file, false⟩) := by
  intro i
  have hfree' := get?_afterExec_eq_none hfree
  rw [afterExec_close, afterExec_set_keep, afterExec_set_drop, afterExec_set_keep]
  simp only [get?_close, get?_set]
  by_cases hi : i = n
  · subst hi
    simp [hne, hfree, hfree']
  · simp [hi]

/-- The table with a file in the place of a descriptor, if there is such a file. -/
def put (d : Descriptors δ) (n : Nat) (file : Option δ) : Descriptors δ :=
  file.elim d fun file => d.set n ⟨file, false⟩

theorem get?_put (d : Descriptors δ) (n m : Nat) (file : Option δ) :
    (d.put n file).get? m =
      if m = n then file.elim (d.get? m) fun file => some ⟨file, false⟩ else d.get? m := by
  cases file with
  | none => simp [put]
  | some file => simp [put, get?_set]

theorem afterExec_put (d : Descriptors δ) (n : Nat) (file : Option δ) :
    (d.put n file).afterExec = d.afterExec.put n file := by
  cases file with
  | none => rfl
  | some file => exact d.afterExec_set_keep n file

theorem Alike.put (h : d.Alike d') (n : Nat) (file : Option δ) :
    (d.put n file).Alike (d'.put n file) := by
  cases file with
  | none => exact h
  | some file => exact h.set n file

end Descriptors

/-! ## Pipes -/

/-- The open files at the two ends of a pipe. -/
structure PipeFiles (δ : Type) where
  readFile : δ
  writeFile : δ

/-- The pipe is new: its ends are different files, and nothing else refers to one of them, neither
a descriptor of the shell nor the file of a redirection. -/
structure PipeFiles.Apart {δ σ : Type} (files : PipeFiles δ) (d : Descriptors δ)
    (openFile : Wiring.Opener δ (StateM σ)) : Prop where
  distinct : files.readFile ≠ files.writeFile
  inherited : ∀ x ∈ d.slots, x.2.file ≠ files.readFile ∧ x.2.file ≠ files.writeFile
  opened : ∀ direction path k file k', openFile direction path k = (.ok file, k') →
    file ≠ files.readFile ∧ file ≠ files.writeFile

namespace Role

variable {δ : Type}

/-- What a stage reads from, if it is the second of two. -/
def source? (files : PipeFiles δ) : Role → Option δ
  | pipeReader => some files.readFile
  | _ => none

/-- What a stage writes to, if it is the first of two. -/
def sink? (files : PipeFiles δ) : Role → Option δ
  | pipeWriter => some files.writeFile
  | _ => none

end Role

namespace Descriptors

variable {δ : Type} {d : Descriptors δ} {files : PipeFiles δ} {pipe : Pipe}

/-- The table of a process that has made a pipe; both ends are closed in the next program. -/
def withPipe (files : PipeFiles δ) (pipe : Pipe) (d : Descriptors δ) : Descriptors δ :=
  (d.set pipe.readEnd ⟨files.readFile, true⟩).set pipe.writeEnd ⟨files.writeFile, true⟩

/-- The table of a process that has closed both ends of a pipe. -/
def withoutPipe (pipe : Pipe) (d : Descriptors δ) : Descriptors δ :=
  (d.close pipe.readEnd).close pipe.writeEnd

/-- A pipe may take two descriptors: they are different, and not open. -/
structure MayTake (d : Descriptors δ) (pipe : Pipe) : Prop where
  distinct : pipe.readEnd ≠ pipe.writeEnd
  readFree : d.get? pipe.readEnd = none
  writeFree : d.get? pipe.writeEnd = none

theorem MayTake.get?_readEnd (h : d.MayTake pipe) :
    (d.withPipe files pipe).get? pipe.readEnd = some ⟨files.readFile, true⟩ := by
  rw [withPipe, get?_set, if_neg h.distinct, get?_set, if_pos rfl]

theorem get?_writeEnd :
    (d.withPipe files pipe).get? pipe.writeEnd = some ⟨files.writeFile, true⟩ := by
  rw [withPipe, get?_set, if_pos rfl]

/-- A pipe changes nothing in the next program. -/
theorem MayTake.get?_afterExec (h : d.MayTake pipe) (n : Nat) :
    (d.withPipe files pipe).afterExec.get? n = d.afterExec.get? n := by
  rw [withPipe, afterExec_set_drop, afterExec_set_drop, get?_close, get?_close]
  split
  next hn => rw [hn, get?_afterExec_eq_none h.writeFree]
  next =>
    split
    next hn => rw [hn, get?_afterExec_eq_none h.readFree]
    next => rfl

/-- Closing both ends of a pipe undoes what making it has done. -/
theorem MayTake.get?_withoutPipe (h : d.MayTake pipe) (n : Nat) :
    ((d.withPipe files pipe).withoutPipe pipe).get? n = d.get? n := by
  rw [withoutPipe, withPipe, get?_close, get?_close, get?_set, get?_set]
  split
  next hn => rw [hn, h.writeFree]
  next =>
    split
    next hn => rw [hn, h.readFree]
    next => rfl

/-- Two descriptors that are opened one after the other make a pipe. -/
theorem mayTake_of_install {limit : Option Nat} {d₁ d₂ : Descriptors δ} {reader writer : δ}
    {readEnd writeEnd : Nat} (hread : d.install limit ⟨reader, true⟩ = .ok (readEnd, d₁))
    (hwrite : d₁.install limit ⟨writer, true⟩ = .ok (writeEnd, d₂)) :
    d.MayTake ⟨readEnd, writeEnd⟩ ∧
      d₂ = d.withPipe ⟨reader, writer⟩ ⟨readEnd, writeEnd⟩ := by
  obtain ⟨hreadFree, rfl⟩ := eq_set_of_install hread
  obtain ⟨hwriteFree, rfl⟩ := eq_set_of_install hwrite
  rw [get?_set] at hwriteFree
  split at hwriteFree
  · cases hwriteFree
  next hne => exact ⟨⟨Ne.symm hne, hreadFree, hwriteFree⟩, rfl⟩

theorem get?_afterExec_withoutPipe (n : Nat) :
    (d.withoutPipe pipe).afterExec.get? n =
      if n = pipe.writeEnd ∨ n = pipe.readEnd then none else d.afterExec.get? n := by
  rw [withoutPipe, afterExec_close, afterExec_close, get?_close, get?_close]
  by_cases hwrite : n = pipe.writeEnd <;> by_cases hread : n = pipe.readEnd <;> simp [hwrite, hread]

end Descriptors

/-! ## New processes -/

namespace Wiring

variable {δ σ : Type} {d : Descriptors δ} {k : σ}

theorem bind_apply {α β : Type} (x : StateM σ α) (f : α → StateM σ β) (k : σ) :
    (x >>= f) k = f (x k).1 (x k).2 := rfl

/-- The file of a redirection has been opened, if there is a redirection. -/
inductive Opened (openFile : Opener δ (StateM σ)) (direction : Direction) :
    Option String → σ → Option δ → σ → Prop where
  | none (k : σ) : Opened openFile direction none k none k
  | some {path : String} {k k' : σ} {file : δ} (plain : '\x00' ∉ path.toList)
      (answer : openFile direction path k = (.ok file, k')) :
      Opened openFile direction (some path) k (some file) k'

/-- The file of a redirection has not been opened, and why. -/
inductive Unopened (openFile : Opener δ (StateM σ)) (limit : Option Nat) (direction : Direction) :
    String → σ → FileError → σ → Prop where
  | nul {path : String} {k : σ} (nul : '\x00' ∈ path.toList) :
      Unopened openFile limit direction path k .nulInPath k
  | full {path : String} {k : σ} {bound : Nat} (bounded : limit = some bound) :
      Unopened openFile limit direction path k (.system .tooManyFiles) k
  | answer {path : String} {k k' : σ} {cause : FileError}
      (answer : openFile direction path k = (.error cause, k')) :
      Unopened openFile limit direction path k cause k'

/-- One of the files of a stage has not been opened. -/
inductive Faults (openFile : Opener δ (StateM σ)) (limit : Option Nat) (stage : Stage) (k : σ) :
    WiringFault → σ → Prop where
  | input {path : String} {cause : FileError} {k' : σ} (redirected : stage.input = some path)
      (unopened : Unopened openFile limit .input path k cause k') :
      Faults openFile limit stage k (.unopened .input path cause) k'
  | output {input : Option δ} {path : String} {cause : FileError} {k₁ k' : σ}
      (opened : Opened openFile .input stage.input k input k₁)
      (redirected : stage.output = some path)
      (unopened : Unopened openFile limit .output path k₁ cause k') :
      Faults openFile limit stage k (.unopened .output path cause) k'

theorem replace_eq {source target : Nat} {file : δ} {closes : Bool}
    (h : d.get? source = some ⟨file, closes⟩) (hne : source ≠ target) :
    replace d source target = .ok (d.set target ⟨file, false⟩) := by
  rw [replace, Descriptors.duplicate, h]
  dsimp only
  rw [if_neg hne]

/-- A redirection puts its file in the place of the standard descriptor and changes nothing else, or
its file has not been opened. -/
theorem redirectIf_cases (openFile : Opener δ (StateM σ)) (limit : Option Nat)
    (direction : Direction) (path : Option String) (k : σ)
    (hstandard : d.get? direction.standard ≠ none) :
    (∃ path' cause k', path = some path' ∧ Unopened openFile limit direction path' k cause k' ∧
        redirectIf openFile limit direction path d k =
          (.error (.unopened direction path' cause), k')) ∨
      ∃ file d' k', redirectIf openFile limit direction path d k = (.ok d', k') ∧
        Opened openFile direction path k file k' ∧ d'.Alike (d.put direction.standard file) := by
  rcases path with _ | path
  · exact .inr ⟨none, d, k, rfl, .none k, .refl d⟩
  · rw [redirectIf, redirect]
    by_cases hnul : path.toList.contains '\x00' = true
    · rw [if_pos hnul]
      exact .inl ⟨path, .nulInPath, k, rfl, .nul (by simpa using hnul), rfl⟩
    · rw [if_neg hnul]
      rcases d.free?_cases limit 0 with hfree | ⟨hfree, bound, hbound⟩
      · rw [hfree]
        set fd := d.lowestFree 0
        rcases hopen : openFile direction path k with ⟨e | file, k'⟩
        · refine .inl ⟨path, e, k', rfl, .answer hopen, ?_⟩
          dsimp only
          rw [bind_apply, hopen]
          rfl
        · -- The file is at a number that was free, so not in the place of the standard descriptor.
          have hnone : d.get? fd = none := d.get?_lowestFree 0
          have hne : fd ≠ direction.standard := fun heq => hstandard (heq ▸ hnone)
          have hget : (d.set fd ⟨file, true⟩).get? fd = some ⟨file, true⟩ := by
            rw [Descriptors.get?_set, if_pos rfl]
          have hnul' : '\x00' ∉ path.toList := by simpa using hnul
          refine .inr ⟨some file, _, k', ?_, .some hnul' hopen,
            Descriptors.alike_of_moment file hnone hne⟩
          dsimp only
          rw [bind_apply, hopen]
          dsimp only
          rw [replace_eq hget hne]
          rfl
      · rw [hfree]
        exact .inl ⟨path, .system .tooManyFiles, k, rfl, .full hbound, rfl⟩

/-- Each end of the pipe that the role asks for is put in its place, and both are let go of. -/
theorem joinPipe_eq {files : PipeFiles δ} {role : Role} {pipe : Pipe}
    (hread : d.get? pipe.readEnd = some ⟨files.readFile, true⟩)
    (hwrite : d.get? pipe.writeEnd = some ⟨files.writeFile, true⟩)
    (hreadNe : pipe.readEnd ≠ Descriptors.standardInput)
    (hwriteNe : pipe.writeEnd ≠ Descriptors.standardOutput) :
    joinPipe role (some pipe) d =
      .ok (((d.put Descriptors.standardInput (role.source? files)).put Descriptors.standardOutput
        (role.sink? files)).withoutPipe pipe) := by
  rw [joinPipe]
  cases role with
  | alone => rfl
  | pipeWriter =>
    rw [takeEnd, replace_eq hwrite hwriteNe]
    rfl
  | pipeReader =>
    rw [takeEnd, replace_eq hread hreadNe]
    rfl

/-- What a new process gets from the shell: the pipe, if there is one, stands open, and its ends are
not in the place of a standard descriptor. -/
structure Inherits (files : PipeFiles δ) (launch : Launch) (d : Descriptors δ) : Prop where
  standardInput : d.get? Descriptors.standardInput ≠ none
  standardOutput : d.get? Descriptors.standardOutput ≠ none
  ends : ∀ pipe, launch.pipe = some pipe →
    d.get? pipe.readEnd = some ⟨files.readFile, true⟩ ∧
      d.get? pipe.writeEnd = some ⟨files.writeFile, true⟩
  apart : ∀ pipe, launch.pipe = some pipe →
    ∀ n, n = Descriptors.standardInput ∨ n = Descriptors.standardOutput →
      pipe.readEnd ≠ n ∧ pipe.writeEnd ≠ n
  alone : launch.pipe = none → launch.role = .alone

/-- The table of a new process when the files of its redirections, and then the ends of the pipe,
have been put in their places. -/
def plumbed (files : PipeFiles δ) (launch : Launch) (input output : Option δ)
    (d : Descriptors δ) : Descriptors δ :=
  let d := (d.put Descriptors.standardInput input).put Descriptors.standardOutput output
  let d := (d.put Descriptors.standardInput (launch.role.source? files)).put
    Descriptors.standardOutput (launch.role.sink? files)
  launch.pipe.elim d fun pipe => d.withoutPipe pipe

theorem joinPipe_alike {files : PipeFiles δ} {launch : Launch} {d' : Descriptors δ}
    {input output : Option δ} (h : Inherits files launch d)
    (halike : d'.Alike
      ((d.put Descriptors.standardInput input).put Descriptors.standardOutput output)) :
    ∃ d'', joinPipe launch.role launch.pipe d' = .ok d'' ∧
      d''.Alike (plumbed files launch input output d) := by
  rw [plumbed]
  rcases hpipe : launch.pipe with _ | pipe
  · rw [h.alone hpipe]
    exact ⟨d', rfl, halike⟩
  · -- The redirections have left the ends of the pipe where they were.
    have hget : ∀ {n slot}, d.get? n = some slot → n ≠ Descriptors.standardInput →
        n ≠ Descriptors.standardOutput → d'.get? n = some slot := by
      intro n slot hn hinput houtput
      rw [(halike n).1, Descriptors.get?_put, if_neg houtput, Descriptors.get?_put, if_neg hinput,
        hn]
    obtain ⟨hread, hwrite⟩ := h.ends pipe hpipe
    obtain ⟨hread₀, hwrite₀⟩ := h.apart pipe hpipe _ (.inl rfl)
    obtain ⟨hread₁, hwrite₁⟩ := h.apart pipe hpipe _ (.inr rfl)
    refine ⟨_, joinPipe_eq (hget hread hread₀ hread₁) (hget hwrite hwrite₀ hwrite₁) hread₀ hwrite₁,
      (((halike.put _ _).put _ _).close _).close _⟩

/-- A new process opens the files of its redirections, and then goes on with them and the ends of
the pipe in their places; or one of the files has not been opened. -/
theorem wire_cases {files : PipeFiles δ} {launch : Launch} (openFile : Opener δ (StateM σ))
    (limit : Option Nat) (k : σ) (h : Inherits files launch d) :
    (∃ fault k', wire openFile limit launch d k = (.error fault, k') ∧
        Faults openFile limit launch.stage k fault k') ∨
      ∃ input output k₁ k', ∃ d' : Descriptors δ,
        wire openFile limit launch d k = (.ok d'.afterExec, k') ∧
        Opened openFile .input launch.stage.input k input k₁ ∧
        Opened openFile .output launch.stage.output k₁ output k' ∧
        d'.Alike (plumbed files launch input output d) := by
  rw [wire]
  rcases redirectIf_cases openFile limit .input launch.stage.input k h.standardInput with
    ⟨path, cause, k₁, hpath, hunopened, hinput⟩ | ⟨input, d₁, k₁, hinput, hopened, halike⟩
  · refine .inl ⟨.unopened .input path cause, k₁, ?_, .input hpath hunopened⟩
    rw [bind_apply, hinput]
    rfl
  · -- The redirection of the input has left standard output open.
    have houtput : d₁.get? Direction.output.standard ≠ none := by
      rw [(halike _).1, Descriptors.get?_put]
      exact h.standardOutput
    rcases redirectIf_cases openFile limit .output launch.stage.output k₁ houtput with
      ⟨path, cause, k', hpath, hunopened, houtput⟩ | ⟨output, d₂, k', houtput, hopened', halike'⟩
    · refine .inl ⟨.unopened .output path cause, k', ?_, .output hopened hpath hunopened⟩
      rw [bind_apply, hinput]
      dsimp only
      rw [bind_apply, houtput]
      rfl
    · obtain ⟨d', hjoin, hplumbed⟩ := joinPipe_alike h (halike'.trans (halike.put _ output))
      refine .inr ⟨input, output, k₁, k', d', ?_, hopened, hopened', hplumbed⟩
      rw [bind_apply, hinput]
      dsimp only
      rw [bind_apply, houtput]
      dsimp only
      rw [hjoin]
      rfl

/-- How the shell's own table gives rise to the one that a new process gets. -/
inductive Gives (files : PipeFiles δ) (d₀ : Descriptors δ) :
    Option Pipe → Role → Descriptors δ → Prop where
  | alone : Gives files d₀ none .alone d₀
  | writer {pipe : Pipe} (taken : d₀.MayTake pipe) :
      Gives files d₀ (some pipe) .pipeWriter (d₀.withPipe files pipe)
  | reader {pipe : Pipe} (taken : d₀.MayTake pipe) :
      Gives files d₀ (some pipe) .pipeReader (d₀.withPipe files pipe)

/-- What the program of a stage starts with, where the shell's own table was `d₀` before the launch:
its files stand for the standard descriptors, and otherwise an end of the pipe does, and otherwise
all is inherited. -/
structure Wired (files : PipeFiles δ) (d₀ : Descriptors δ) (role : Role) (input output : Option δ)
    (d : Descriptors δ) : Prop where
  standardInput : d.get? Descriptors.standardInput =
    (input.or (role.source? files)).elim (d₀.afterExec.get? Descriptors.standardInput)
      fun file => some ⟨file, false⟩
  standardOutput : d.get? Descriptors.standardOutput =
    (output.or (role.sink? files)).elim (d₀.afterExec.get? Descriptors.standardOutput)
      fun file => some ⟨file, false⟩
  others : ∀ n, n ≠ Descriptors.standardInput → n ≠ Descriptors.standardOutput →
    d.get? n = d₀.afterExec.get? n

theorem Opened.eq_none {openFile : Opener δ (StateM σ)} {direction : Direction}
    {path : Option String} {k' : σ} {file : Option δ} (h : Opened openFile direction path k file k')
    (hpath : path = Option.none) : file = Option.none := by
  rw [hpath] at h
  cases h
  rfl

theorem Opened.file_ne {files : PipeFiles δ} {openFile : Opener δ (StateM σ)}
    {direction : Direction} {path : Option String} {k' : σ} {file : δ}
    (h : Opened openFile direction path k (Option.some file) k') (hapart : files.Apart d openFile) :
    file ≠ files.readFile ∧ file ≠ files.writeFile := by
  cases h with
  | some plain answer => exact hapart.opened _ _ _ _ _ answer

/-- Where nothing else refers to the pipe, its ends are held by the stages that they are for, each
by one standard descriptor. -/
theorem Wired.held {files : PipeFiles δ} {d₀ : Descriptors δ} {role : Role}
    {input output : Option δ} (h : Wired files d₀ role input output d)
    (hdistinct : files.readFile ≠ files.writeFile)
    (hinherited : ∀ n slot, d₀.afterExec.get? n = some slot →
      slot.file ≠ files.readFile ∧ slot.file ≠ files.writeFile)
    (hinput : ∀ file, input = some file → file ≠ files.readFile ∧ file ≠ files.writeFile)
    (houtput : ∀ file, output = some file → file ≠ files.readFile ∧ file ≠ files.writeFile)
    (hreads : role = .pipeReader → input = none) (hwrites : role = .pipeWriter → output = none)
    (n : Nat) (slot : Slot δ) (hslot : d.get? n = some slot) :
    (slot.file = files.readFile ↔ role = .pipeReader ∧ n = Descriptors.standardInput) ∧
      (slot.file = files.writeFile ↔ role = .pipeWriter ∧ n = Descriptors.standardOutput) := by
  have hneither : slot.file ≠ files.readFile ∧ slot.file ≠ files.writeFile →
      ¬ (role = .pipeReader ∧ n = Descriptors.standardInput) →
      ¬ (role = .pipeWriter ∧ n = Descriptors.standardOutput) →
      (slot.file = files.readFile ↔ role = .pipeReader ∧ n = Descriptors.standardInput) ∧
        (slot.file = files.writeFile ↔ role = .pipeWriter ∧ n = Descriptors.standardOutput) :=
    fun hfile hread hwrite => ⟨iff_of_false hfile.1 hread, iff_of_false hfile.2 hwrite⟩
  have hne : Descriptors.standardInput ≠ Descriptors.standardOutput := by decide
  -- Only the two standard descriptors can have got an end; the others are inherited.
  by_cases hn₀ : n = Descriptors.standardInput
  · subst hn₀
    rw [h.standardInput] at hslot
    cases role with
    | pipeReader =>
      rw [hreads rfl] at hslot
      obtain rfl := Option.some.inj hslot
      exact ⟨iff_of_true rfl ⟨rfl, rfl⟩, iff_of_false hdistinct nofun⟩
    | alone | pipeWriter =>
      rcases input with _ | file
      · exact hneither (hinherited _ _ hslot) (by simp) (hne ·.2)
      · obtain rfl := Option.some.inj hslot
        exact hneither (hinput file rfl) (by simp) (hne ·.2)
  · by_cases hn₁ : n = Descriptors.standardOutput
    · subst hn₁
      rw [h.standardOutput] at hslot
      cases role with
      | pipeWriter =>
        rw [hwrites rfl] at hslot
        obtain rfl := Option.some.inj hslot
        exact ⟨iff_of_false hdistinct.symm nofun, iff_of_true rfl ⟨rfl, rfl⟩⟩
      | alone | pipeReader =>
        rcases output with _ | file
        · exact hneither (hinherited _ _ hslot) (by simp [hn₀]) (by simp)
        · obtain rfl := Option.some.inj hslot
          exact hneither (houtput file rfl) (by simp [hn₀]) (by simp)
    · rw [h.others n hn₀ hn₁] at hslot
      exact hneither (hinherited n slot hslot) (by simp [hn₀]) (by simp [hn₁])

section

variable {files : PipeFiles δ} {d₀ d' : Descriptors δ} {launch : Launch} {input output : Option δ}

/-- The ends of a pipe that a table may take are not among its open descriptors. -/
theorem ends_ne {pipe : Pipe} {n : Nat} (htaken : d₀.MayTake pipe) (hopen : d₀.get? n ≠ none) :
    pipe.readEnd ≠ n ∧ pipe.writeEnd ≠ n := by
  constructor
  · rintro rfl
    exact hopen htaken.readFree
  · rintro rfl
    exact hopen htaken.writeFree

theorem Gives.inherits (h : Gives files d₀ launch.pipe launch.role d)
    (hinput : d₀.get? Descriptors.standardInput ≠ none)
    (houtput : d₀.get? Descriptors.standardOutput ≠ none) : Inherits files launch d := by
  have hpiped : ∀ {pipe : Pipe}, launch.pipe = some pipe → d₀.MayTake pipe →
      d = d₀.withPipe files pipe → Inherits files launch d := by
    rintro pipe hpipe htaken rfl
    have hkept : ∀ {n}, d₀.get? n ≠ none → (d₀.withPipe files pipe).get? n ≠ none := by
      intro n hn
      obtain ⟨hread, hwrite⟩ := ends_ne htaken hn
      rwa [Descriptors.withPipe, Descriptors.get?_set, if_neg hwrite.symm, Descriptors.get?_set,
        if_neg hread.symm]
    refine ⟨hkept hinput, hkept houtput, fun pipe' h => ?_, fun pipe' h n hn => ?_, fun h => ?_⟩
    · obtain rfl : pipe = pipe' := Option.some.inj (hpipe.symm.trans h)
      exact ⟨htaken.get?_readEnd, Descriptors.get?_writeEnd⟩
    · obtain rfl : pipe = pipe' := Option.some.inj (hpipe.symm.trans h)
      rcases hn with rfl | rfl
      · exact ends_ne htaken hinput
      · exact ends_ne htaken houtput
    · rw [hpipe] at h
      cases h
  -- The fields of the launch are indices of `Gives`, which only variables can be.
  generalize hpipe : launch.pipe = pipe at h
  generalize hrole : launch.role = role at h
  cases h with
  | alone =>
    exact ⟨hinput, houtput, by simp [hpipe], by simp [hpipe], fun _ => hrole⟩
  | writer taken => exact hpiped hpipe taken rfl
  | reader taken => exact hpiped hpipe taken rfl

theorem get?_put_put (d : Descriptors δ) (input output source sink : Option δ) (n : Nat) :
    ((((d.put Descriptors.standardInput input).put Descriptors.standardOutput output).put
      Descriptors.standardInput source).put Descriptors.standardOutput sink).get? n =
      if n = Descriptors.standardOutput then
        (sink.or output).elim (d.get? n) fun file => some ⟨file, false⟩
      else if n = Descriptors.standardInput then
        (source.or input).elim (d.get? n) fun file => some ⟨file, false⟩
      else d.get? n := by
  simp only [Descriptors.get?_put]
  by_cases houtput : n = Descriptors.standardOutput
  · subst houtput
    cases sink <;> cases output <;> rfl
  · by_cases hinput : n = Descriptors.standardInput
    · subst hinput
      cases source <;> cases input <;> rfl
    · simp [houtput, hinput]

theorem Gives.get?_afterExec (h : Gives files d₀ launch.pipe launch.role d) (n : Nat) :
    d.afterExec.get? n = d₀.afterExec.get? n := by
  generalize launch.pipe = pipe at h
  generalize launch.role = role at h
  cases h with
  | alone => rfl
  | writer taken | reader taken => exact taken.get?_afterExec n

theorem Gives.mayTake (h : Gives files d₀ launch.pipe launch.role d) {pipe : Pipe}
    (hpipe : launch.pipe = some pipe) : d₀.MayTake pipe := by
  rw [hpipe] at h
  generalize launch.role = role at h
  cases h with
  | writer taken | reader taken => exact taken

/-- Every descriptor of the next program. Where both could stand, an end of the pipe comes before a
file. -/
theorem Gives.get?_plumbed (h : Gives files d₀ launch.pipe launch.role d)
    (hinput : d₀.get? Descriptors.standardInput ≠ none)
    (houtput : d₀.get? Descriptors.standardOutput ≠ none) (n : Nat) :
    (plumbed files launch input output d).afterExec.get? n =
      if n = Descriptors.standardOutput then
        ((launch.role.sink? files).or output).elim (d₀.afterExec.get? n)
          fun file => some ⟨file, false⟩
      else if n = Descriptors.standardInput then
        ((launch.role.source? files).or input).elim (d₀.afterExec.get? n)
          fun file => some ⟨file, false⟩
      else d₀.afterExec.get? n := by
  rw [plumbed]
  rcases hpipe : launch.pipe with _ | pipe
  · rw [Option.elim_none, Descriptors.afterExec_put, Descriptors.afterExec_put,
      Descriptors.afterExec_put, Descriptors.afterExec_put, get?_put_put, h.get?_afterExec]
  · have htaken := h.mayTake hpipe
    rw [Option.elim_some, Descriptors.get?_afterExec_withoutPipe, Descriptors.afterExec_put,
      Descriptors.afterExec_put, Descriptors.afterExec_put, Descriptors.afterExec_put, get?_put_put,
      h.get?_afterExec]
    split
    next hn =>
      -- Nothing is left at the ends, where nothing was before the pipe was made.
      have hfree : d₀.get? n = none := hn.elim (· ▸ htaken.writeFree) (· ▸ htaken.readFree)
      have hne : ∀ m, d₀.get? m ≠ none → n ≠ m := fun m hm heq => hm (heq ▸ hfree)
      rw [if_neg (hne _ houtput), if_neg (hne _ hinput), Descriptors.get?_afterExec_eq_none hfree]
    next => rfl

theorem Gives.wired (h : Gives files d₀ launch.pipe launch.role d)
    (hinput : d₀.get? Descriptors.standardInput ≠ none)
    (houtput : d₀.get? Descriptors.standardOutput ≠ none)
    (hreads : launch.role = .pipeReader → input = none)
    (hwrites : launch.role = .pipeWriter → output = none)
    (halike : d'.Alike (plumbed files launch input output d)) :
    Wired files d₀ launch.role input output d'.afterExec := by
  have hall : ∀ n, d'.afterExec.get? n = _ := fun n =>
    (halike n).2.trans (h.get?_plumbed hinput houtput n)
  refine ⟨?_, ?_, fun n hn₀ hn₁ => ?_⟩
  · rw [hall, if_neg (by decide), if_pos rfl]
    cases hrole : launch.role with
    | pipeReader => rw [hreads hrole]; rfl
    | alone | pipeWriter => cases input <;> rfl
  · rw [hall, if_pos rfl]
    cases hrole : launch.role with
    | pipeWriter => rw [hwrites hrole]; rfl
    | alone | pipeReader => cases output <;> rfl
  · rw [hall, if_neg hn₁, if_neg hn₀]

end

end Wiring

end JobShell
