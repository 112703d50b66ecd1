import JobShell.Machine.Calls

/-!
# Taking turns

The processes of the machine take turns: in a round, each of them is reached by its signals and
makes one system call. A round takes some time; when no process can do anything, time passes until
the first sleep is over. The machine runs only while somebody outside waits for it.
-/

namespace JobShell.Machine

namespace Kernel

/-- The microseconds that a round takes. -/
def roundLength : Nat := 15

/-- Goes on with the task of a process, unless it has ended over its last call. -/
def continueWith (k : Kernel) (pid : Nat) (task : Task) : Kernel :=
  k.update pid fun p => if p.isAlive then { p with life := .working task } else p

/-- Adds a child of a process; the answer is its number. -/
def spawn (k : Kernel) (p : Process) (task : Task) : Nat × Kernel :=
  let pid := k.nextPid
  (pid, { k with processes := k.processes ++ [p.child pid task], nextPid := pid + 1 })

/-- A process does the next piece of its task. The flag says whether it could. -/
def advance (k : Kernel) (p : Process) : Task → Kernel × Bool
  | .exit code => (k.finish p.pid (exitWord code), true)
  | .fork child next =>
    let (pid, k) := k.spawn p child
    (k.continueWith p.pid (next (.ok pid)), true)
  | .call c next =>
    match k.perform p c with
    | .answer a k => (k.continueWith p.pid (next a), true)
    | .blocked k => (k, false)
    | .gone k => (k, true)

/-- A process is reached by the signals that wait for it, at most `fuel` of them. The flag says
whether there were any. -/
def deliverAll (pid : Nat) : Nat → Kernel → Kernel × Bool
  | 0, k => (k, false)
  | fuel + 1, k =>
    match k.process? pid with
    | none => (k, false)
    | some p =>
      match p.nextSignal? with
      | none => (k, false)
      | some s => ((deliverAll pid fuel (k.deliver p s)).1, true)

/-- A process has its turn: it is reached by its signals, and goes on if they let it. The flag says
whether anything happened. -/
def turn (k : Kernel) (pid : Nat) : Kernel × Bool :=
  let (k, reached) := deliverAll pid Signal.all.length k
  match k.process? pid with
  | none => (k, reached)
  | some p =>
    match p.life with
    | .working task =>
      if p.isStopped then
        (k, reached)
      else
        let (k, moved) := k.advance p task
        (k, reached || moved)
    | _ => (k, reached)

/-- Every process has its turn. -/
def round (k : Kernel) : Kernel × Bool :=
  (k.processes.map (·.pid)).foldl (fun (k, moved) pid =>
    let (k, now) := k.turn pid
    (k, moved || now)) (k, false)

/-- When the first sleep is over. -/
def firstWake? (k : Kernel) : Option Nat :=
  (k.processes.filterMap fun p => if p.isStopped then none else p.wake).min?

/-- The time at which something will happen, if anything will. -/
def nextEvent? (k : Kernel) (deadline : Option Nat) : Option Nat :=
  match k.firstWake?, deadline with
  | some a, some b => some (min a b)
  | some a, none => some a
  | none, b => b

/-- Lets the processes take turns until `found` yields something, or the deadline comes, or
nothing can happen any more, but for at most `fuel` rounds. -/
def runUntil {α : Type} (found : Kernel → Option α) (deadline : Option Nat) :
    Nat → Kernel → Option α × Kernel
  | 0, k => (none, k)
  | fuel + 1, k =>
    match found k with
    | some a => (some a, k)
    | none =>
      if deadline.any (· ≤ k.clock) then
        (none, k)
      else
        match k.round with
        | (k, true) => runUntil found deadline fuel { k with clock := k.clock + roundLength }
        | (k, false) =>
          match k.nextEvent? deadline with
          | some time => runUntil found deadline fuel { k with clock := max time (k.clock + 1) }
          | none => (found k, k)

/-- More rounds than anybody waits for. -/
def patience : Nat := 20000000

/-- Lets the processes take turns for some microseconds. -/
def pass (k : Kernel) (duration : Nat) : Kernel :=
  (k.runUntil (α := Empty) (fun _ => none) (some (k.clock + duration)) patience).2

end Kernel

end JobShell.Machine
