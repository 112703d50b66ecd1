import JobShell.Proofs.Handling
import JobShell.Proofs.Wiring

/-!
# Plumbing

Which open files the programs of a command start with, and which of them the shell itself holds at
each moment of a launch. A monitor watches the shell's own table; `launch_plumbing` says what a
new process makes of its copy.
-/

namespace JobShell

namespace Descriptors

variable {δ : Type}

/-- The table of the shell after a call: making a pipe and closing it are all that changes it. -/
def afterExchange (files : PipeFiles δ) (d : Descriptors δ) : Exchange → Descriptors δ
  | ⟨.makePipe, .ok pipe⟩ => d.withPipe files pipe
  | ⟨.closePipe pipe, _⟩ => d.withoutPipe pipe
  | _ => d

/-- The table of the shell at the end of a trace. -/
def afterTrace (files : PipeFiles δ) (d : Descriptors δ) (t : Trace) : Descriptors δ :=
  t.foldl (afterExchange files) d

end Descriptors

/-- The part that a stage of a command has. -/
inductive Command.Casts (command : Command) : Role → Stage → Prop where
  | alone (hrest : command.rest = []) : Casts command .alone command.first
  | writer {second : Stage} (hrest : command.rest = [second]) :
      Casts command .pipeWriter command.first
  | reader {second : Stage} (hrest : command.rest = [second]) : Casts command .pipeReader second

/-- Where a file could stand in the place of an end of the pipe, the check refuses the command. -/
theorem Command.Casts.unredirected {command : Command} {role : Role} {stage : Stage}
    (h : command.Casts role stage) (hcheck : command.check = .ok ()) :
    (role = .pipeReader → stage.input = none) ∧ (role = .pipeWriter → stage.output = none) := by
  obtain ⟨houtput, hinput, -⟩ := checkRedirects_eq_ok_iff.1 (check_eq_ok_iff.1 hcheck).1
  cases h with
  | alone hrest => exact ⟨nofun, nofun⟩
  | writer hrest => exact ⟨nofun, fun _ => houtput (by simp [hrest])⟩
  | reader hrest => exact ⟨fun _ => hinput _ (by simp [hrest]), nofun⟩

namespace Shell

open Wiring

variable {δ : Type} {settings : Settings} {command : Command} {s s' : Session} {t : Trace}
  {files : PipeFiles δ} {d d₀ : Descriptors δ}

/-- What is true of the shell's table at a call, if it was `d₀` when the launch began. -/
def Watched (files : PipeFiles δ) (d₀ : Descriptors δ) (command : Command) (d : Descriptors δ) :
    Call → Prop
  | .fork launch =>
    command.Casts launch.role launch.stage ∧ Gives files d₀ launch.pipe launch.role d
  | .wait _ _ => ∀ n, d.get? n = d₀.get? n
  | _ => True

/-- Somebody who watches the shell's table while a command is launched. -/
def watcher (files : PipeFiles δ) (d₀ : Descriptors δ) (command : Command) :
    Monitor (Descriptors δ) where
  permits := Watched files d₀ command
  admits _ _ _ := True
  step d c answer := d.afterExchange files ⟨c, answer⟩

theorem after_watcher (t : Trace) (d : Descriptors δ) :
    (watcher files d₀ command).after d t = d.afterTrace files t := by
  induction t generalizing d with
  | nil => rfl
  | cons e t ih => exact ih _

theorem permitted_birthTrace (settings : Settings) {stage : Stage} {role : Role}
    {pipe : Option Pipe} (pid : Pid) (hcast : command.Casts role stage)
    (hgives : Gives files d₀ pipe role d) :
    (watcher files d₀ command).Permitted d (birthTrace settings stage role pipe pid) ∧
      (watcher files d₀ command).after d (birthTrace settings stage role pipe pid) = d := by
  rw [birthTrace]
  split
  · exact ⟨⟨⟨hcast, hgives⟩, trivial, trivial, trivial, trivial, trivial⟩, rfl⟩
  · exact ⟨⟨⟨hcast, hgives⟩, trivial, trivial, trivial⟩, rfl⟩

theorem permitted_stillbirthTrace (settings : Settings) {stage : Stage} {role : Role}
    {pipe : Option Pipe} (e : Errno) (hcast : command.Casts role stage)
    (hgives : Gives files d₀ pipe role d) :
    (watcher files d₀ command).Permitted d (stillbirthTrace settings stage role pipe e) ∧
      (watcher files d₀ command).after d (stillbirthTrace settings stage role pipe e) = d :=
  ⟨⟨⟨hcast, hgives⟩, trivial⟩, rfl⟩

theorem watched_append {u v : Trace}
    (hu : (watcher files d₀ command).Permitted d u ∧ (watcher files d₀ command).after d u = d)
    (hv : (watcher files d₀ command).Permitted d v ∧ (watcher files d₀ command).after d v = d) :
    (watcher files d₀ command).Permitted d (u ++ v) ∧
      (watcher files d₀ command).after d (u ++ v) = d := by
  rw [Monitor.permitted_append, Monitor.after_append, hu.2]
  exact ⟨⟨hu.1, hv.1⟩, hv.2⟩

/-- What is true of the table while processes are made with a pipe is true of the whole, if the pipe
is closed in the end. -/
theorem watched_piped {pipe : Pipe} {u : Trace} (htaken : d₀.MayTake pipe)
    (hu : (watcher files d₀ command).Permitted (d₀.withPipe files pipe) u ∧
      (watcher files d₀ command).after (d₀.withPipe files pipe) u = d₀.withPipe files pipe) :
    (watcher files d₀ command).Permitted d₀
        (⟨.makePipe, .ok pipe⟩ :: u ++ [⟨.closePipe pipe, ()⟩]) ∧
      ∀ n, ((watcher files d₀ command).after d₀
        (⟨.makePipe, .ok pipe⟩ :: u ++ [⟨.closePipe pipe, ()⟩])).get? n = d₀.get? n := by
  obtain ⟨hpermitted, hafter⟩ := hu
  rw [Monitor.permitted_append, Monitor.after_append]
  have hopen : (watcher files d₀ command).after d₀ (⟨.makePipe, .ok pipe⟩ :: u) =
      d₀.withPipe files pipe := hafter
  rw [hopen]
  exact ⟨⟨⟨trivial, hpermitted⟩, trivial, trivial⟩, htaken.get?_withoutPipe⟩

theorem Spawned.watched {outcome : Except LaunchError (List Pid)}
    (h : Spawned settings command t outcome) (hcheck : command.check = .ok ())
    (hpipes : ∀ pipe, (⟨.makePipe, .ok pipe⟩ : Exchange) ∈ t → d₀.MayTake pipe) :
    (watcher files d₀ command).Permitted d₀ t ∧
      ∀ n, ((watcher files d₀ command).after d₀ t).get? n = d₀.get? n := by
  -- A command that has passed its check has no third stage.
  have hpair : ∀ {second : Stage} {more : List Stage}, command.rest = second :: more →
      command.rest = [second] := by
    intro second more hrest
    rcases rest_of_check hcheck with hnone | ⟨_, hone⟩
    · rw [hnone] at hrest
      cases hrest
    · rw [hone] at hrest ⊢
      cases hrest
      rfl
  cases h with
  | alone hrest pid =>
    obtain ⟨hpermitted, hafter⟩ := permitted_birthTrace settings pid (.alone hrest) .alone
    exact ⟨hpermitted, fun n => by rw [hafter]⟩
  | aloneFails hrest e => exact ⟨⟨⟨.alone hrest, .alone⟩, trivial⟩, fun _ => rfl⟩
  | pipeFails hrest e => exact ⟨⟨trivial, trivial⟩, fun _ => rfl⟩
  | firstFails hrest pipe e =>
    have htaken := hpipes pipe List.mem_cons_self
    exact watched_piped htaken
      (permitted_stillbirthTrace settings e (.writer (hpair hrest)) (.writer htaken))
  | secondFails hrest pipe writer e =>
    have htaken := hpipes pipe List.mem_cons_self
    have hone := hpair hrest
    exact watched_piped htaken <|
      watched_append (permitted_birthTrace settings writer (.writer hone) (.writer htaken))
        (permitted_stillbirthTrace settings e (.reader hone) (.reader htaken))
  | pair hrest pipe writer reader =>
    have htaken := hpipes pipe List.mem_cons_self
    have hone := hpair hrest
    exact watched_piped htaken <|
      watched_append (permitted_birthTrace settings writer (.writer hone) (.writer htaken))
        (permitted_birthTrace settings reader (.reader hone) (.reader htaken))

/-- While the shell waits its table stays as it was before the launch. -/
theorem watched_quietly {v : Trace} (hcalls : ∀ e ∈ v, e.call.isOfBuiltin)
    (hd : ∀ n, d.get? n = d₀.get? n) :
    (watcher files d₀ command).Permitted d v ∧ (watcher files d₀ command).after d v = d := by
  induction v with
  | nil => exact ⟨trivial, rfl⟩
  | cons e v ih =>
    obtain ⟨hcall, hrest⟩ := List.forall_mem_cons.1 hcalls
    obtain ⟨c, answer⟩ := e
    have hstep : (watcher files d₀ command).step d c answer = d := by
      cases c <;> first | rfl | cases hcall
    have hpermits : (watcher files d₀ command).permits d c := by
      cases c <;> first | exact hd | trivial
    refine ⟨⟨hpermits, ?_⟩, ?_⟩
    · exact hstep.symm ▸ (ih hrest).1
    · exact (congrArg ((watcher files d₀ command).after · v) hstep).trans (ih hrest).2

theorem watched_launch (files : PipeFiles δ) {r : Except Failure (List Pid)}
    (hcheck : command.check = .ok ()) (hruns : Runs (launch settings command) s t r s')
    (hpipes : ∀ pipe, (⟨.makePipe, .ok pipe⟩ : Exchange) ∈ t → d₀.MayTake pipe) :
    (watcher files d₀ command).Permitted d₀ t ∧
      ∀ n, ((watcher files d₀ command).after d₀ t).get? n = d₀.get? n := by
  rcases runs_launch_parts hcheck hruns with
    ⟨pids, waited, u, v, r', rfl, hspawned, -, hv, -⟩ | ⟨cause, hspawned, -, -⟩
  · obtain ⟨hpermitted, hafter⟩ := hspawned.watched hcheck fun pipe hpipe =>
      hpipes pipe (List.mem_append_left _ hpipe)
    -- The shell has closed the pipe when it begins to wait, and nothing changes the table then.
    obtain ⟨hpermitted', hafter'⟩ := watched_quietly (runs_awaitAll_quietly hv).2 hafter
    rw [Monitor.permitted_append, Monitor.after_append, hafter']
    exact ⟨⟨hpermitted, hpermitted'⟩, hafter⟩
  · exact hspawned.watched hcheck hpipes

/-- What comes of a new process that gets the table `d`, however its files are opened: one of them
cannot be, and then it never becomes the program of its stage; or all are, and the program starts
with the table that is as `Wired` says. Unless a file or an inherited descriptor is one of them, the
ends of the pipe are then held where they belong and nowhere else. -/
structure Starts (files : PipeFiles δ) (d₀ : Descriptors δ) (launch : Launch) (d : Descriptors δ) :
    Prop where
  wired : ∀ {σ : Type} (openFile : Opener δ (StateM σ)) (limit : Option Nat) (k : σ),
    (∃ fault k', wire openFile limit launch d k = (.error fault, k') ∧
        Faults openFile limit launch.stage k fault k') ∨
      ∃ input output k₁ k' d', wire openFile limit launch d k = (.ok d', k') ∧
        Opened openFile .input launch.stage.input k input k₁ ∧
        Opened openFile .output launch.stage.output k₁ output k' ∧
        Wired files d₀ launch.role input output d'
  held : ∀ {σ : Type} (openFile : Opener δ (StateM σ)) (limit : Option Nat) (k k' : σ)
    (d' : Descriptors δ), files.Apart d₀ openFile →
    wire openFile limit launch d k = (.ok d', k') →
    ∀ n slot, d'.get? n = some slot →
      (slot.file = files.readFile ↔
        launch.role = .pipeReader ∧ n = Descriptors.standardInput) ∧
      (slot.file = files.writeFile ↔
        launch.role = .pipeWriter ∧ n = Descriptors.standardOutput)

theorem starts_of_gives {launch : Launch} (hgives : Gives files d₀ launch.pipe launch.role d)
    (hinput : d₀.get? Descriptors.standardInput ≠ none)
    (houtput : d₀.get? Descriptors.standardOutput ≠ none)
    (hreads : launch.role = .pipeReader → launch.stage.input = none)
    (hwrites : launch.role = .pipeWriter → launch.stage.output = none) :
    Starts files d₀ launch d := by
  have hwired : ∀ {σ : Type} (openFile : Opener δ (StateM σ)) (limit : Option Nat) (k : σ),
      (∃ fault k', wire openFile limit launch d k = (.error fault, k') ∧
          Faults openFile limit launch.stage k fault k') ∨
        ∃ input output k₁ k' d', wire openFile limit launch d k = (.ok d', k') ∧
          Opened openFile .input launch.stage.input k input k₁ ∧
          Opened openFile .output launch.stage.output k₁ output k' ∧
          Wired files d₀ launch.role input output d' := by
    intro σ openFile limit k
    rcases wire_cases openFile limit k (hgives.inherits hinput houtput) with
      hfault | ⟨input, output, k₁, k', d', hwire, hopened, hopened', halike⟩
    · exact .inl hfault
    · exact .inr ⟨input, output, k₁, k', _, hwire, hopened, hopened',
        hgives.wired hinput houtput (fun hrole => hopened.eq_none (hreads hrole))
          (fun hrole => hopened'.eq_none (hwrites hrole)) halike⟩
  refine ⟨hwired, fun openFile limit k k' d' hapart hwire n slot hslot => ?_⟩
  rcases hwired openFile limit k with ⟨_, _, hfault, -⟩ |
    ⟨input, output, k₁, k'', d'', hwire', hopened, hopened', hd'⟩
  · rw [hwire] at hfault
    cases hfault
  · rw [hwire] at hwire'
    cases hwire'
    refine hd'.held hapart.distinct (fun _ _ h => ?_) (fun file h => ?_) (fun file h => ?_)
      (fun hrole => hopened.eq_none (hreads hrole))
      (fun hrole => hopened'.eq_none (hwrites hrole)) n slot hslot
    · exact hapart.inherited _ (Descriptors.mem_of_get?_afterExec h)
    · subst h
      exact hopened.file_ne hapart
    · subst h
      exact hopened'.file_ne hapart

/-- Whatever a launch comes to: each process that it makes has a part in the command, and gets from
the shell what its program is to start with; and the shell holds no end of a pipe at any wait, or in
the end. The standard descriptors of the shell are open, and a pipe takes two that are not. -/
theorem launch_plumbing (files : PipeFiles δ) {r : Except Failure (List Pid)}
    (hinput : d₀.get? Descriptors.standardInput ≠ none)
    (houtput : d₀.get? Descriptors.standardOutput ≠ none) (hcheck : command.check = .ok ())
    (hruns : Runs (launch settings command) s t r s')
    (hpipes : ∀ pipe, (⟨.makePipe, .ok pipe⟩ : Exchange) ∈ t → d₀.MayTake pipe) :
    (∀ before launch answer after, t = before ++ ⟨.fork launch, answer⟩ :: after →
      command.Casts launch.role launch.stage ∧
        Starts files d₀ launch (d₀.afterTrace files before)) ∧
    (∀ before pid mode answer after, t = before ++ ⟨.wait pid mode, answer⟩ :: after →
      ∀ n, (d₀.afterTrace files before).get? n = d₀.get? n) ∧
    ∀ n, (d₀.afterTrace files t).get? n = d₀.get? n := by
  obtain ⟨hpermitted, hend⟩ := watched_launch files hcheck hruns hpipes
  -- What the monitor permits at a call is true of the table that the calls before it have left.
  have hat : ∀ before e after, t = before ++ e :: after →
      Watched files d₀ command (d₀.afterTrace files before) e.call := by
    rintro before e after rfl
    have hhere := ((Monitor.permitted_append ..).1 hpermitted).2.1
    rwa [after_watcher] at hhere
  refine ⟨fun before launch answer after ht => ?_, fun before pid mode answer after ht => ?_, ?_⟩
  · obtain ⟨hcast, hgives⟩ := hat before _ after ht
    obtain ⟨hreads, hwrites⟩ := hcast.unredirected hcheck
    exact ⟨hcast, starts_of_gives hgives hinput houtput hreads hwrites⟩
  · exact hat before _ after ht
  · rwa [after_watcher] at hend

namespace Piped

/-- A shell whose standard descriptors all are the terminal. -/
def terminal : Descriptors String :=
  ⟨[(0, ⟨"terminal", false⟩), (1, ⟨"terminal", false⟩), (2, ⟨"terminal", false⟩)]⟩

def ends : PipeFiles String := ⟨"read end", "write end"⟩

theorem mayTake {pipe : Pipe} (h : (⟨.makePipe, .ok pipe⟩ : Exchange) ∈ trace) :
    terminal.MayTake pipe := by
  obtain rfl : pipe = ⟨3, 4⟩ := by simpa [trace] using h
  exact ⟨by decide, rfl, rfl⟩

end Piped

theorem launch_plumbing_pair :
    Piped.terminal.get? Descriptors.standardInput ≠ none ∧
      Piped.terminal.get? Descriptors.standardOutput ≠ none ∧
      Command.check ⟨Piped.first, [Piped.second]⟩ = .ok () ∧
      Runs (launch Piped.silent ⟨Piped.first, [Piped.second]⟩) Piped.session Piped.trace
        (.ok [⟨7⟩, ⟨8⟩]) Piped.afterLaunch ∧
      (∀ pipe, (⟨.makePipe, .ok pipe⟩ : Exchange) ∈ Piped.trace → Piped.terminal.MayTake pipe) ∧
      Starts Piped.ends Piped.terminal ⟨Piped.first, .pipeWriter, some ⟨3, 4⟩, false⟩
        (Piped.terminal.withPipe Piped.ends ⟨3, 4⟩) ∧
      Starts Piped.ends Piped.terminal ⟨Piped.second, .pipeReader, some ⟨3, 4⟩, false⟩
        (Piped.terminal.withPipe Piped.ends ⟨3, 4⟩) ∧
      ∀ n, (Piped.terminal.afterTrace Piped.ends Piped.trace).get? n = Piped.terminal.get? n := by
  have hinput : Piped.terminal.get? Descriptors.standardInput ≠ none := by decide
  have houtput : Piped.terminal.get? Descriptors.standardOutput ≠ none := by decide
  obtain ⟨hforks, -, hend⟩ := launch_plumbing Piped.ends hinput houtput Piped.check
    Piped.runs fun _ => Piped.mayTake
  exact ⟨hinput, houtput, Piped.check, Piped.runs, fun _ => Piped.mayTake,
    (hforks [_] _ _ _ rfl).2, (hforks [_, _, _, _] _ _ _ rfl).2, hend⟩

end Shell

end JobShell
