import JobShell.Proofs.Cuts
import JobShell.Proofs.ReadEvalLoop

/-!
# Sturdiness

A computation of the shell crashes where something is taken that is not there: a piece of a line, or
the first of no arguments. None of this happens. Every cut of the reader fits the line, and what is
run, be it a built-in command or a program, has a name, which is its first argument. Main statement:
`processLine_sturdy`.
-/

namespace JobShell

/-- The stage that a process is asked for. -/
def Call.stage? : Call → Option Stage
  | .fork launch => some launch.stage
  | _ => none

namespace Trace

/-- The stages that processes are asked for, in order, whether they are made or not. -/
def stages (t : Trace) : List Stage := t.filterMap (·.call.stage?)

@[simp] theorem stages_append (t u : Trace) : stages (t ++ u) = stages t ++ stages u :=
  List.filterMap_append

theorem stages_of_forall {t : Trace} (h : ∀ e ∈ t, e.call.isLaunch = false) : t.stages = [] := by
  refine List.filterMap_eq_nil_iff.2 fun e he => ?_
  have hcall := h e he
  cases hc : e.call <;> rw [hc] at hcall <;> first | rfl | cases hcall

theorem mem_stages {t : Trace} {launch : Launch} {answer : Except Errno Pid}
    (h : (⟨.fork launch, answer⟩ : Exchange) ∈ t) : launch.stage ∈ t.stages :=
  List.mem_filterMap.2 ⟨_, h, rfl⟩

end Trace

namespace Command.Parser

/-- Reading a line comes to an end with its notes, and all of them fit. -/
theorem exists_notes (line : String) :
    ∃ notes, (notedRead (.ofString line)).run.run [] = (parse line, notes) ∧
      ∀ note ∈ notes, note.Fits line := by
  obtain ⟨notes, hrun, hfits⟩ := notes_read line []
  exact ⟨notes, hrun, hfits (parse_ne_brokenCut line)⟩

end Command.Parser

namespace Shell

variable {settings : Settings} {command : Command} {s s' : Session} {t : Trace}
  {raw text : String}

/-! ## Programs -/

theorem stages_birthTrace (settings : Settings) (stage : Stage) (role : Role)
    (pipe : Option Pipe) (pid : Pid) :
    (birthTrace settings stage role pipe pid).stages = [stage] := by
  unfold birthTrace
  split <;> rfl

theorem stages_piped (pipe : Pipe) (t : Trace) :
    Trace.stages (⟨.makePipe, .ok pipe⟩ :: t ++ [⟨.closePipe pipe, ()⟩]) = t.stages := by
  have hclosed : Trace.stages [⟨.closePipe pipe, ()⟩] = [] := rfl
  rw [Trace.stages_append, hclosed, List.append_nil]
  rfl

/-- Processes are asked for in the order of the stages. -/
theorem Spawned.stages_isPrefix {outcome : Except LaunchError (List Pid)}
    (h : Spawned settings command t outcome) : t.stages <+: command.stages := by
  rw [Command.stages]
  cases h with
  | alone hrest pid =>
    rw [stages_birthTrace]
    exact List.prefix_append [_] _
  | aloneFails hrest e => exact List.prefix_append [_] _
  | pipeFails hrest e => exact List.nil_prefix
  | firstFails hrest pipe e =>
    rw [stages_piped]
    exact List.prefix_append [_] _
  | secondFails hrest pipe writer e =>
    rw [List.cons_append, stages_piped, Trace.stages_append, stages_birthTrace, hrest]
    exact List.prefix_append [_, _] _
  | pair hrest pipe writer reader =>
    rw [List.cons_append, stages_piped, Trace.stages_append, stages_birthTrace, stages_birthTrace,
      hrest]
    exact List.prefix_append [_, _] _

theorem stages_launch_isPrefix {r : Except Failure (List Pid)} (hcheck : command.check = .ok ())
    (h : Runs (launch settings command) s t r s') : t.stages <+: command.stages := by
  rcases runs_launch_parts hcheck h with
    ⟨pids, waited, u, v, r', rfl, hspawned, -, hv, -⟩ | ⟨cause, hspawned, -, -⟩
  · -- The shell asks for nothing more while it waits.
    have hquiet : v.stages = [] := Trace.stages_of_forall fun e he =>
      Call.isLaunch_of_isOfBuiltin ((runs_awaitAll_quietly hv).2 e he)
    rw [Trace.stages_append, hquiet, List.append_nil]
    exact hspawned.stages_isPrefix
  · exact hspawned.stages_isPrefix

/-- A process is asked for only to run a stage of a command that the line holds. -/
theorem Handled.arguments_ne_nil {r : Except Failure Flow}
    (h : Handled settings s text t r s') : ∀ stage ∈ t.stages, stage.arguments ≠ [] := by
  have hlaunch : ∀ {command : Command} {u : Trace} {q : Except Failure (List Pid)},
      command.check = .ok () → Runs (launch settings command) s u q s' →
        ∀ stage ∈ u.stages, stage.arguments ≠ [] := by
    intro command u q hcheck hruns stage hstage
    have hmem := (stages_launch_isPrefix hcheck hruns).subset hstage
    exact (Stage.check_eq_ok_iff.1 ((Command.check_eq_ok_iff.1 hcheck).2 stage hmem)).1
  cases h with
  | unreadable | empty | unflushed | refused => exact List.forall_mem_nil _
  | builtin parsed asked runs =>
    have hquiet : t.stages = [] := Trace.stages_of_forall fun e he =>
      Call.isLaunch_of_isOfBuiltin ((runs_runBuiltin_quietly runs).1 e he)
    rw [hquiet]
    exact List.forall_mem_nil _
  | @launched command u pids _ parsed asked checked runs =>
    have hlogged : Trace.stages (⟨.flush, .ok ()⟩ :: u ++ [⟨.log (.launched pids), ()⟩]) =
        u.stages ++ [] := Trace.stages_append u _
    rw [hlogged, List.append_nil]
    exact hlaunch checked runs
  | @unlaunched command u e _ parsed asked checked runs =>
    show ∀ stage ∈ u.stages, stage.arguments ≠ []
    exact hlaunch checked runs

/-! ## Built-in commands -/

/-- A built-in command is handed its name in front of its arguments. -/
theorem run_processLine_of_builtin (settings : Settings) {builtin : Builtin}
    (hrecorded : recorded? s.history raw = some text)
    (hparsed : Command.parse text = .ok (some command))
    (hasked : builtin? command = some builtin) :
    ∃ rest, command.first.arguments = builtin.name :: rest ∧
      ((processLine settings raw).run s : Program _) =
        (runBuiltin settings builtin (builtin.name :: rest)).run (s.record text) := by
  have hhead := (Command.builtin?_eq_some_iff.1 hasked).2
  obtain ⟨rest, hrest⟩ := List.head?_eq_some_iff.1 hhead
  refine ⟨rest, hrest, ?_⟩
  rw [run_processLine_of_recorded settings hrecorded,
    run_processResolved_of_parse settings s hparsed, execute_of_builtin? hasked, hrest]

/-! ## Lines -/

/-- Nothing that a line leads to is taken from where it is not. -/
structure Sturdy (settings : Settings) (s : Session) (raw : String) : Prop where
  uncrashed : ∀ t r s', Runs (processLine settings raw) s t r s' → r ≠ .error .crash
  /-- A new process has a program to become. -/
  program : ∀ t r s', Runs (processLine settings raw) s t r s' →
    ∀ launch answer, (⟨.fork launch, answer⟩ : Exchange) ∈ t →
      ∃ program rest, launch.stage.arguments = program :: rest
  /-- A built-in command has its name to complain with. -/
  builtin : ∀ text command builtin, recorded? s.history raw = some text →
    Command.parse text = .ok (some command) → builtin? command = some builtin →
      ∃ rest, command.first.arguments = builtin.name :: rest ∧
        ((processLine settings raw).run s : Program _) =
          (runBuiltin settings builtin (builtin.name :: rest)).run (s.record text)
  /-- The reader makes no cut inside a character or outside of the line, and each turn of its loop
  takes it further. -/
  cuts : ∀ text, recorded? s.history raw = some text →
    ∃ notes, (Command.Parser.notedRead (.ofString text)).run.run [] = (Command.parse text, notes) ∧
      ∀ note ∈ notes, note.Fits text

/-- No line breaks the shell, whatever characters it holds, whatever the table and the history hold,
and whatever the system answers. -/
theorem processLine_sturdy (settings : Settings) (s : Session) (raw : String) :
    Sturdy settings s raw where
  uncrashed t r s' h := by
    rcases runs_processLine_cases h with ⟨-, -, -, rfl | rfl | rfl⟩ | ⟨text, -, hhandled⟩
    · exact nofun
    · exact nofun
    · exact nofun
    · exact hhandled.sturdy
  program t r s' h launch answer hfork := by
    rcases runs_processLine_cases h with ⟨-, rfl, -, -⟩ | ⟨text, -, hhandled⟩
    · cases hfork
    · have hne := hhandled.arguments_ne_nil _ (Trace.mem_stages hfork)
      exact List.exists_cons_of_ne_nil hne
  builtin _ _ _ := run_processLine_of_builtin settings
  cuts text _ := Command.Parser.exists_notes text

end Shell

end JobShell
