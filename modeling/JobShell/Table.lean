import JobShell.Command
import JobShell.Pid
import JobShell.Status

/-!
# The process table

The processes that the shell has launched, newest first. A record keeps apart what was last
observed of its process and what a control command has led one to expect of it. A number can occur
twice, because the system may give the number of a dead process to a new one; the operations that
take a number act on the newest record that has it.

`refresh` asks what became of every process, and `listAndReap` lists all records and drops the
dead ones. Both leave open how the question is answered.
-/

namespace JobShell

/-- What the table knows of one launched process. -/
structure Record where
  pid : Pid
  command : Command
  /-- The status last observed. -/
  observed : Status
  /-- The status expected since then. -/
  predicted : Option Status
  deriving DecidableEq, Repr

namespace Record

/-- The expected status while there is one, else the observed one. -/
def status (r : Record) : Status := r.predicted.getD r.observed

/-- The record of a process that has just been launched. -/
def launched (pid : Pid) (command : Command) : Record := ⟨pid, command, .running, none⟩

/-- The record after its process has been seen in a status, which settles what was expected. -/
def settle (r : Record) (status : Status) : Record :=
  { r with observed := status, predicted := none }

/-- The record after its process has been asked for news. -/
def afterReport (r : Record) : Option Status → Record
  | some status => r.settle status
  | none => { r with predicted := none }

end Record

/-- One line of a listing. -/
structure Entry where
  index : Nat
  pid : Pid
  arguments : List String
  status : Status
  deriving DecidableEq, Repr

/-- The launched processes, newest first. -/
structure Table where
  records : List Record
  deriving DecidableEq, Repr, Inhabited

namespace Table

/-- A table without records. -/
def empty : Table := ⟨[]⟩

/-- How many records there are. -/
def length (t : Table) : Nat := t.records.length

/-- Whether there are no records. -/
def isEmpty (t : Table) : Bool := t.records.isEmpty

/-- Adds a process that has just been launched. -/
def insert (t : Table) (pid : Pid) (command : Command) : Table :=
  ⟨.launched pid command :: t.records⟩

/-- The newest record with a number. -/
def get? (t : Table) (pid : Pid) : Option Record := t.records.find? (·.pid = pid)

/-- Whether some record has the number. -/
def tracks (t : Table) (pid : Pid) : Bool := (t.get? pid).isSome

/-- `f` applied to the first record that has the number, if there is one. -/
def updateFirst (pid : Pid) (f : Record → Record) : List Record → List Record
  | [] => []
  | r :: rest => if r.pid = pid then f r :: rest else r :: updateFirst pid f rest

/-- Writes down what is expected of a process. -/
def predict (t : Table) (pid : Pid) (status : Status) : Table :=
  ⟨updateFirst pid (fun r => { r with predicted := some status }) t.records⟩

/-- Writes down what a process has been seen doing, which settles what was expected. -/
def observe (t : Table) (pid : Pid) (status : Status) : Table :=
  ⟨updateFirst pid (·.settle status) t.records⟩

/-- Asks for news of one process. A process already seen dead is not asked about: by now its
number may belong to another. -/
def refreshRecord {m : Type → Type} [Monad m] (poll : Pid → m (Option Status)) (r : Record) :
    m Record :=
  if r.observed = .terminated then
    pure { r with predicted := none }
  else do
    return r.afterReport (← poll r.pid)

/-- Asks for news of each process in turn. -/
def refreshRecords {m : Type → Type} [Monad m] (poll : Pid → m (Option Status)) :
    List Record → m (List Record)
  | [] => pure []
  | r :: rest => do
    let r ← refreshRecord poll r
    let rest ← refreshRecords poll rest
    return r :: rest

/-- Replaces every expectation by what `poll` reports, newest record first. -/
def refresh {m : Type → Type} [Monad m] (poll : Pid → m (Option Status)) (t : Table) :
    m Table := do
  return ⟨← refreshRecords poll t.records⟩

/-- The records as lines of a listing, numbered from zero. -/
def entries (t : Table) : List Entry :=
  t.records.mapIdx fun i r => ⟨i, r.pid, r.command.first.arguments, r.status⟩

/-- The table without the processes that are dead. -/
def reap (t : Table) : Table := ⟨t.records.filter (·.status ≠ .terminated)⟩

/-- Refreshes the table, lists every record, and drops the dead ones. -/
def listAndReap {m : Type → Type} [Monad m] (poll : Pid → m (Option Status)) (t : Table) :
    m (List Entry × Table) := do
  let t ← refresh poll t
  return (t.entries, t.reap)

/-- The numbers in the table, newest first. -/
def pids (t : Table) : List Pid := t.records.map (·.pid)

@[simp] theorem records_insert (t : Table) (pid : Pid) (command : Command) :
    (t.insert pid command).records = .launched pid command :: t.records := rfl

/-- A number that no record has leaves the table as it is. -/
theorem predict_of_tracks_eq_false {t : Table} {pid : Pid} (status : Status)
    (h : t.tracks pid = false) : t.predict pid status = t := by
  cases t with
  | mk records =>
    simp only [tracks, get?, Option.isSome_eq_false_iff, Option.isNone_iff_eq_none,
      List.find?_eq_none, decide_eq_true_eq] at h
    simp only [predict, mk.injEq]
    induction records with
    | nil => rfl
    | cons r rest ih =>
      simp only [updateFirst, h r (List.mem_cons_self ..), if_false, List.cons.injEq, true_and]
      exact ih fun x hx => h x (List.mem_cons_of_mem _ hx)

end Table

end JobShell
