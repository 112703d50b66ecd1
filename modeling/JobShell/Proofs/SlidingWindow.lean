import JobShell.Proofs.Numerals
import JobShell.Proofs.Recording

/-!
# The history as a sliding window

However often lines are pushed and the history is cleared, it keeps the last of the lines pushed
since it was last cleared, as many as its capacity allows, and all that can be asked of it is
answered from these. Main statement: `edited_shows`.
-/

namespace JobShell

namespace History

/-- A change of the history. -/
inductive Edit where
  | push (line : String)
  | clear
  deriving DecidableEq, Repr

/-- The history after a change. -/
def Edit.apply (h : History) : Edit → History
  | push line => h.push line
  | clear => h.clear

/-- The line that a change pushes. -/
def Edit.line? : Edit → Option String
  | push line => some line
  | clear => none

/-- A history that keeps up to `capacity` lines, after changes one after the other. -/
def edited (capacity : Nat) (edits : List Edit) : History := edits.foldl Edit.apply (empty capacity)

/-- The lines pushed since the history was last cleared, whether they are still kept or not. -/
def pushed (edits : List Edit) : List String :=
  (edits.rtakeWhile (·.line?.isSome)).filterMap Edit.line?

/-- The last of the pushed lines, as many as there is room for. -/
def kept (capacity : Nat) (edits : List Edit) : List String :=
  (pushed edits).rtake (min (pushed edits).length capacity)

/-! ## The window -/

theorem pushed_push (edits : List Edit) (line : String) :
    pushed (edits ++ [.push line]) = pushed edits ++ [line] := by
  rw [pushed, List.rtakeWhile_concat_pos _ _ _ rfl, List.filterMap_append]
  rfl

theorem pushed_clear (edits : List Edit) : pushed (edits ++ [.clear]) = [] := by
  rw [pushed, List.rtakeWhile_concat_neg _ _ _ Bool.false_ne_true, List.filterMap_nil]

theorem edited_concat (capacity : Nat) (edits : List Edit) (edit : Edit) :
    edited capacity (edits ++ [edit]) = edit.apply (edited capacity edits) :=
  List.foldl_concat ..

/-- A push moves the window on by one line. -/
theorem push_lastN (capacity : Nat) (texts : List String) (line : String) :
    push ⟨capacity, lastN capacity texts⟩ line = ⟨capacity, lastN capacity (texts ++ [line])⟩ :=
  congrArg (mk capacity) (lastN_lastN_append ..)

theorem length_window_le (capacity : Nat) (texts : List String) :
    length ⟨capacity, lastN capacity texts⟩ ≤ capacity := by
  rw [length, length_lastN]
  exact Nat.min_le_left ..

theorem edited_eq (capacity : Nat) (edits : List Edit) :
    edited capacity edits = ⟨capacity, lastN capacity (pushed edits)⟩ := by
  have hempty : lastN capacity ([] : List String) = [] := List.drop_nil
  induction edits using List.reverseRecOn with
  | nil =>
    have hnone : pushed [] = [] := rfl
    rw [hnone, hempty]
    rfl
  | append_singleton edits edit ih =>
    rw [edited_concat, ih]
    cases edit with
    | push line => rw [pushed_push, ← push_lastN, Edit.apply]
    | clear => rw [pushed_clear, hempty, Edit.apply, clear]

theorem lastN_eq_rtake {α : Type} (n : Nat) (xs : List α) :
    lastN n xs = xs.rtake (min xs.length n) := by
  have hdropped : xs.length - n = xs.length - min xs.length n := by omega
  rw [lastN, List.rtake, hdropped]

theorem lines_edited (capacity : Nat) (edits : List Edit) :
    (edited capacity edits).lines = kept capacity edits := by
  rw [edited_eq, kept, lastN_eq_rtake]

/-- A line is pushed behind the others, and then the oldest line goes if there is no room for all.
Without a capacity it is the pushed line itself that goes. -/
theorem lines_push {h : History} (hle : h.length ≤ h.capacity) (line : String) :
    (h.push line).lines =
      if h.length < h.capacity then h.lines ++ [line] else (h.lines ++ [line]).tail := by
  have hlength : (h.lines ++ [line]).length = h.length + 1 := List.length_append
  rw [push, lastN, hlength]
  split
  next hroom =>
    have hnone : h.length + 1 - h.capacity = 0 := by omega
    rw [hnone, List.drop_zero]
  next hfull =>
    have hone : h.length + 1 - h.capacity = 1 := by omega
    rw [hone, List.drop_one]

/-- The pushed line is the last one, if there is room for any. -/
theorem last?_push {h : History} (hpos : 0 < h.capacity) (line : String) :
    (h.push line).last? = some line := by
  have hkept : (h.lines ++ [line]).length - h.capacity ≤ h.lines.length := by
    rw [List.length_append, List.length_singleton]
    omega
  rw [last?, push, lastN, List.drop_append_of_le_length hkept]
  exact List.getLast?_concat

theorem lines_edited_push (capacity : Nat) (edits : List Edit) (line : String) :
    (edited capacity (edits ++ [.push line])).lines =
      if (kept capacity edits).length < capacity then kept capacity edits ++ [line]
      else (kept capacity edits ++ [line]).tail := by
  have hcapacity : (edited capacity edits).capacity = capacity := by rw [edited_eq]
  have hle : (edited capacity edits).length ≤ (edited capacity edits).capacity := by
    rw [hcapacity, edited_eq]
    exact length_window_le capacity _
  rw [edited_concat, Edit.apply, lines_push hle, length, hcapacity, lines_edited]

/-! ## Answers -/

/-- A number behind an exclamation mark stands for the line with that number. -/
theorem resolve_numeral (h : History) {d : String} {n : Nat} (hd : Numeral d.toList n) :
    h.resolve ("!" ++ d) = (h.get? n).elim (.error .invalidHistoryReference) .ok := by
  have hlist : ("!" ++ d).toList = '!' :: d.toList := String.toList_append
  have htaken : d.toList.takeWhile Char.isDigit = d.toList :=
    List.takeWhile_eq_self_iff.2 hd.all_isDigit
  have hnumber : reference? ('!' :: d.toList) = some (.number n) :=
    reference?_cons (by rw [htaken, Pid.digits?_eq_some_iff.2 hd])
  rw [resolve_eq, hlist, hnumber]
  rfl

theorem get?_succ (h : History) (i : Nat) : h.get? (i + 1) = h.lines[i]? := by
  rw [get?, if_neg (Nat.succ_ne_zero i), Nat.add_sub_cancel]

theorem get?_eq_none_iff_number (h : History) (n : Nat) :
    h.get? n = none ↔ n = 0 ∨ h.lines.length < n := by
  cases n with
  | zero => exact iff_of_true (if_pos rfl) (.inl rfl)
  | succ i =>
    rw [get?_succ, List.getElem?_eq_none_iff]
    omega

/-- Everything that can be asked of a history is answered from `lines`. -/
structure Shows (h : History) (lines : List String) : Prop where
  length : h.length = lines.length
  isEmpty : h.isEmpty = true ↔ lines = []
  last : h.last? = lines.getLast?
  /-- The list of all lines numbers them from 1 on. -/
  numbered : h.numbered.length = lines.length ∧
    ∀ (i : Nat) (hi : i < lines.length), h.numbered[i]? = some (i + 1, lines[i])
  get : ∀ (i : Nat) (hi : i < lines.length), h.get? (i + 1) = some lines[i]
  get_outside : ∀ n, n = 0 ∨ lines.length < n → h.get? n = none
  /-- Two exclamation marks stand for the last line. -/
  bang : ∀ (hne : lines ≠ []), h.resolve "!!" = .ok (lines.getLast hne)
  bang_empty : h.resolve "!!" = .error .noHistory ↔ lines = []
  /-- A numeral behind an exclamation mark stands for the line with its value, and leading zeros do
  not matter. -/
  number : ∀ (d : String) (i : Nat) (hi : i < lines.length), Numeral d.toList (i + 1) →
    h.resolve ("!" ++ d) = .ok lines[i]
  /-- Any other value is refused, however great it is. -/
  number_outside : ∀ (d : String) (n : Nat), Numeral d.toList n → n = 0 ∨ lines.length < n →
    h.resolve ("!" ++ d) = .error .invalidHistoryReference

/-- A history answers from the lines that it keeps. -/
theorem shows_lines (h : History) : h.Shows h.lines := by
  have hbang : h.resolve "!!" = h.last?.elim (.error .noHistory) .ok := by
    rw [resolve_eq]
    rfl
  have hget : ∀ (i : Nat) (hi : i < h.lines.length), h.get? (i + 1) = some h.lines[i] :=
    fun i hi => by rw [get?_succ, List.getElem?_eq_getElem hi]
  have houtside : ∀ n, n = 0 ∨ h.lines.length < n → h.get? n = none :=
    fun n => (h.get?_eq_none_iff_number n).2
  refine ⟨rfl, List.isEmpty_iff, rfl, ⟨List.length_mapIdx, fun i hi => ?_⟩, hget, houtside,
    fun hne => ?_, ?_, fun d i hi hd => ?_, fun d n hd hn => ?_⟩
  · rw [numbered, List.getElem?_mapIdx, List.getElem?_eq_getElem hi, Option.map_some]
  · rw [hbang, last?, List.getLast?_eq_some_getLast hne, Option.elim_some]
  · rw [hbang, last?, ← List.getLast?_eq_none_iff]
    cases h.lines.getLast? <;> simp
  · rw [h.resolve_numeral hd, hget i hi, Option.elim_some]
  · rw [h.resolve_numeral hd, houtside n hn, Option.elim_none]

/-- A history shows a window on the lines pushed since it was last cleared, and a push moves it on:
the line comes in at the end, and the oldest line goes out exactly if the window was full. -/
theorem edited_shows (capacity : Nat) (edits : List Edit) :
    (edited capacity edits).Shows (kept capacity edits) ∧
      ∀ line, (edited capacity (edits ++ [.push line])).lines =
        if (kept capacity edits).length < capacity then kept capacity edits ++ [line]
        else (kept capacity edits ++ [line]).tail := by
  refine ⟨?_, lines_edited_push capacity edits⟩
  rw [← lines_edited]
  exact shows_lines _

example : (edited 2 [.push "a", .clear, .push "b", .push "c", .push "d"]).resolve "!002" =
    .ok "d" := by decide

end History

end JobShell
