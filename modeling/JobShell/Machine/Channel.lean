import JobShell.Machine.FileTree

/-!
# Channels

What stands between the two ends of a pipe: bytes in the order in which they were written, at most
`capacity` of them. `toList_push` and `toList_take` say that a channel is a queue.
-/

namespace JobShell.Machine

/-- Bytes on their way through a pipe. -/
structure Channel where
  /-- The bytes to be read first. -/
  front : Bytes
  /-- What was written after them, piece by piece, the last one first. -/
  back : List Bytes
  deriving Inhabited

namespace Channel

/-- A channel that nothing has been written to. -/
def empty : Channel := ⟨[], []⟩

/-- The most bytes a channel holds. -/
def capacity : Nat := 65536

/-- A write of at most this many bytes happens at once or not at all. -/
def atomicSize : Nat := 4096

/-- The bytes that have been written and not read. -/
def toList (c : Channel) : Bytes := c.front ++ c.back.reverse.flatten

/-- How many bytes a channel holds. -/
def size (c : Channel) : Nat :=
  c.front.length + c.back.foldl (fun n data => n + data.length) 0

/-- How many bytes still fit. -/
def room (c : Channel) : Nat := capacity - c.size

/-- Adds bytes at the end. -/
def push (c : Channel) (data : Bytes) : Channel := { c with back := data :: c.back }

/-- Takes at most `count` bytes from the beginning. -/
def take (c : Channel) (count : Nat) : Bytes × Channel :=
  let all := c.toList
  (all.take count, ⟨all.drop count, []⟩)

/-- How much of a write of `length` bytes can happen now. -/
def accepts (c : Channel) (length : Nat) : Option Nat :=
  if length ≤ atomicSize then
    if length ≤ c.room then some length else none
  else if c.room = 0 then
    none
  else
    some (min length c.room)

@[simp] theorem toList_empty : empty.toList = [] := rfl

@[simp] theorem toList_push (c : Channel) (data : Bytes) :
    (c.push data).toList = c.toList ++ data := by
  simp [toList, push]

/-- Nothing is lost by taking. -/
theorem toList_take (c : Channel) (count : Nat) :
    (c.take count).1 ++ (c.take count).2.toList = c.toList := by
  simp [take, toList, List.take_append_drop]

theorem foldl_length (back : List Bytes) (n : Nat) :
    back.foldl (fun n data => n + data.length) n = n + back.reverse.flatten.length := by
  induction back generalizing n with
  | nil => rfl
  | cons data back ih =>
    rw [List.foldl_cons, ih, List.reverse_cons, List.flatten_append, List.length_append]
    simp only [List.flatten_cons, List.flatten_nil, List.append_nil]
    omega

theorem size_eq_length (c : Channel) : c.size = c.toList.length := by
  rw [size, foldl_length, toList, List.length_append, Nat.zero_add]

/-- A write fits into the channel. -/
theorem size_push_le {c : Channel} {data : Bytes} {n : Nat} (h : c.accepts data.length = some n)
    (hc : c.size ≤ capacity) : (c.push (data.take n)).size ≤ capacity := by
  rw [size_eq_length, toList_push, List.length_append, ← size_eq_length, List.length_take]
  unfold accepts room at h
  split at h
  · split at h
    · cases h; omega
    · cases h
  · split at h
    · cases h
    · cases h; omega

end Channel

end JobShell.Machine
