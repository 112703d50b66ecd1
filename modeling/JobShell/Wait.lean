import JobShell.Shell

/-!
# Waiting for children

The two ways in which the shell learns what became of a child: a poll, which answers at once, and
a wait, which lasts until the child has ended or stopped. Both begin again when a signal handler
interrupts them, and both count a child that cannot be waited for as dead.
-/

namespace JobShell

namespace Shell

/-- News of a child, if there is any. An interrupted poll is repeated, up to `patience` times. -/
def pollChild (pid : Pid) : Nat → Shell (Option Status)
  | 0 => throw .stuck
  | patience + 1 => do
    match ← ask (.wait pid .poll) with
    | .ok outcome => return outcome.status?
    | .error e =>
      if e = .interrupted then
        pollChild pid patience
      else do
        log (.pollFailed pid e)
        return some .terminated

/-- Waits until a child has ended or stopped. An interrupted wait is repeated, and so is one that
ends without such news, up to `patience` times. -/
def awaitChild (pid : Pid) : Nat → Shell Status
  | 0 => throw .stuck
  | patience + 1 => do
    match ← ask (.wait pid .block) with
    | .ok outcome =>
      match outcome.status? with
      | none | some .running => awaitChild pid patience
      | some status => return status
    | .error e =>
      if e = .interrupted then
        awaitChild pid patience
      else do
        log (.waitFailed pid e)
        return .terminated

/-- News of a process, from wherever the settings say. -/
def poll (settings : Settings) (pid : Pid) : Shell (Option Status) :=
  match settings.probe with
  | .children => pollChild pid settings.patience
  | .observer => ask (.report pid)

/-- Looks at every process again. -/
def refresh (settings : Settings) : Shell Unit := do
  let table ← (← get).table.refresh (poll settings)
  modifyTable fun _ => table

/-- Looks at every process again, drops the dead ones, and lists them all. -/
def listAndReap (settings : Settings) : Shell (List Entry) := do
  let (entries, table) ← (← get).table.listAndReap (poll settings)
  for e in entries do
    if e.status = .terminated then
      log (.reaping e.pid)
  modifyTable fun _ => table
  return entries

end Shell

end JobShell
