import JobShell.Errno

/-!
# Descriptor tables

The open files of a process, by number. Each descriptor refers to an open file of type `δ`, which
several descriptors and several processes may share, and may be marked to be closed when the
process becomes another program.
-/

namespace JobShell

/-- What a descriptor refers to. -/
structure Slot (δ : Type) where
  file : δ
  /-- Whether the descriptor is closed when the process becomes another program. -/
  closeOnExec : Bool
  deriving DecidableEq, Repr

/-- The open descriptors of a process; the first entry of a number counts. -/
structure Descriptors (δ : Type) where
  slots : List (Nat × Slot δ)

namespace Descriptors

variable {δ : Type}

/-- The number of standard input. -/
def standardInput : Nat := 0

/-- The number of standard output. -/
def standardOutput : Nat := 1

/-- The number of standard error. -/
def standardError : Nat := 2

/-- A process without open descriptors. -/
def empty : Descriptors δ := ⟨[]⟩

/-- What a descriptor refers to, if it is open. -/
def get? (d : Descriptors δ) (fd : Nat) : Option (Slot δ) := d.slots.lookup fd

/-- Whether a descriptor is open. -/
def isOpen (d : Descriptors δ) (fd : Nat) : Bool := (d.get? fd).isSome

/-- Closes a descriptor. -/
def close (d : Descriptors δ) (fd : Nat) : Descriptors δ := ⟨d.slots.filter (·.1 ≠ fd)⟩

/-- Makes a descriptor refer to a file, whatever it referred to before. -/
def set (d : Descriptors δ) (fd : Nat) (slot : Slot δ) : Descriptors δ :=
  ⟨(fd, slot) :: (d.close fd).slots⟩

/-- The lowest number from `least` on that is not open. -/
def lowestFree (d : Descriptors δ) (least : Nat) : Nat :=
  let used := d.slots.length
  (((List.range (used + 1)).map (least + ·)).find? (!d.isOpen ·)).getD (least + used)

/-- The lowest number from `least` on that is not open, if a process may have it. -/
def free? (d : Descriptors δ) (limit : Option Nat) (least : Nat) : Except Errno Nat :=
  let fd := d.lowestFree least
  match limit with
  | some bound => if fd < bound then .ok fd else .error .tooManyFiles
  | none => .ok fd

/-- Opens a descriptor for a file, with the lowest number that is free. -/
def install (d : Descriptors δ) (limit : Option Nat) (slot : Slot δ) :
    Except Errno (Nat × Descriptors δ) := do
  let fd ← d.free? limit 0
  return (fd, d.set fd slot)

/-- Makes `target` refer to what `source` refers to; it stays open in the next program. -/
def duplicate (d : Descriptors δ) (source target : Nat) : Except Errno (Descriptors δ) :=
  match d.get? source with
  | none => .error .badDescriptor
  | some slot => if source = target then .ok d else .ok (d.set target ⟨slot.file, false⟩)

/-- What is left open when the process becomes another program. -/
def afterExec (d : Descriptors δ) : Descriptors δ := ⟨d.slots.filter (!·.2.closeOnExec)⟩

@[simp] theorem get?_empty (fd : Nat) : (empty : Descriptors δ).get? fd = none := rfl

theorem lookup_filter_ne {fd other : Nat} (slots : List (Nat × Slot δ)) :
    (slots.filter (·.1 ≠ fd)).lookup other = if other = fd then none else slots.lookup other := by
  induction slots with
  | nil => simp
  | cons s rest ih =>
    by_cases hs : s.1 = fd
    · rw [List.filter_cons_of_neg (by simpa using hs), ih, List.lookup_cons]
      by_cases ho : other = fd
      · simp [ho]
      · have hne : (other == s.1) = false := by simpa [hs] using ho
        simp [ho, hne]
    · rw [List.filter_cons_of_pos (by simpa using hs), List.lookup_cons, List.lookup_cons, ih]
      by_cases ho : other = s.1
      · have hof : other ≠ fd := fun h => hs (ho ▸ h)
        simp [ho ▸ hof, ho]
      · have hne : (other == s.1) = false := by simpa using ho
        simp [hne]

/-- Closing affects no other descriptor. -/
theorem get?_close (d : Descriptors δ) (fd other : Nat) :
    (d.close fd).get? other = if other = fd then none else d.get? other :=
  lookup_filter_ne d.slots

/-- Setting affects no other descriptor. -/
theorem get?_set (d : Descriptors δ) (fd other : Nat) (slot : Slot δ) :
    (d.set fd slot).get? other = if other = fd then some slot else d.get? other := by
  simp only [set, get?, List.lookup_cons]
  by_cases h : other = fd
  · simp [h]
  · have hne : (other == fd) = false := by simpa using h
    have := get?_close d fd other
    simp only [get?, h, if_false] at this
    simp [hne, h, this]

end Descriptors

end JobShell
