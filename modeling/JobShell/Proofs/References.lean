import JobShell.Proofs.Growth
import JobShell.Proofs.Lifetimes
import Mathlib.Data.List.DropRight

/-!
# References to earlier lines

A line is literal if it means the same whatever the history holds. Only literal lines are ever
recorded, so a reference never leads to another one. Main statement: processing a reference is
processing the line that it stands for (`processLine_reference`).
-/

namespace JobShell

/-- A way of standing for an earlier line. -/
inductive Reference where
  | last
  | number (n : Nat)
  deriving DecidableEq, Repr

namespace History

/-- The reference that a line is. -/
def reference? : List Char → Option Reference
  | ['!', '!'] => some .last
  | '!' :: rest => (Pid.digits? (rest.takeWhile Char.isDigit)).map .number
  | _ => none

/-- The line that a reference stands for. -/
def referent (h : History) : Reference → Except ShellError String
  | .last => h.last?.elim (.error .noHistory) .ok
  | .number n => (h.get? n).elim (.error .invalidHistoryReference) .ok

theorem resolve_eq (h : History) (line : String) :
    h.resolve line = (reference? line.toList).elim (.ok line) h.referent := by
  unfold resolve
  split
  next hlast =>
    rw [hlast]
    show _ = h.last?.elim _ _
    cases h.last? <;> rfl
  next rest hne hnumber =>
    rw [hnumber, reference?]
    · cases Pid.digits? (rest.takeWhile Char.isDigit) with
      | none => rfl
      | some n =>
        show _ = (h.get? n).elim _ _
        dsimp only
        cases h.get? n <;> rfl
    · exact hne
  next hlast hnumber =>
    rw [reference?]
    · rfl
    · exact hlast
    · exact hnumber

theorem elim_eq_ok_iff {α ε : Type} {o : Option α} {e : ε} {a : α} :
    o.elim (Except.error e) Except.ok = Except.ok a ↔ o = some a := by
  cases o <;> simp

/-- A reference stands for a line that is kept. -/
theorem mem_lines_of_referent {h : History} {r : Reference} {line : String}
    (hline : h.referent r = .ok line) : line ∈ h.lines := by
  cases r with
  | last => exact List.mem_of_getLast? (elim_eq_ok_iff.1 hline)
  | number n =>
    have hget := elim_eq_ok_iff.1 hline
    rw [get?] at hget
    split at hget
    · cases hget
    · exact List.mem_of_getElem? hget

theorem head?_eq_of_reference? {cs : List Char} {r : Reference} (h : reference? cs = some r) :
    cs.head? = some '!' := by
  unfold reference? at h
  split at h
  · rfl
  · rfl
  · cases h

theorem reference?_cons {rest : List Char} {n : Nat}
    (h : Pid.digits? (rest.takeWhile Char.isDigit) = some n) :
    reference? ('!' :: rest) = some (.number n) := by
  rw [reference?, h]
  · rfl
  · rintro rfl
    cases h

theorem rdropWhile_cons_of_neg {p : Char → Bool} {c : Char} (h : p c = false) (cs : List Char) :
    (c :: cs).rdropWhile p = c :: cs.rdropWhile p := by
  rw [List.rdropWhile, List.rdropWhile, List.reverse_cons, List.dropWhile_append]
  split
  next hnil =>
    rw [List.isEmpty_iff.1 hnil, List.dropWhile_cons_of_neg (by simp [h])]
    rfl
  next => rw [List.reverse_append]; rfl

/-- What is dropped at the end does not matter for what is taken from the beginning, if none of it
would be taken. -/
theorem takeWhile_rdropWhile {p q : Char → Bool} (h : ∀ c, p c → q c = false) (cs : List Char) :
    (cs.rdropWhile p).takeWhile q = cs.takeWhile q := by
  induction cs using List.reverseRecOn with
  | nil => rfl
  | append_singleton cs c ih =>
    by_cases hp : p c
    · rw [List.rdropWhile_concat_pos _ _ _ hp, ih, List.takeWhile_append,
        List.takeWhile_cons_of_neg (by simp [h c hp])]
      split
      next hall => rw [List.append_nil, (List.takeWhile_prefix q).eq_of_length hall]
      next => rfl
    · rw [List.rdropWhile_concat_neg _ _ _ hp]

/-- Line feeds and carriage returns at the end of a reference do not matter. -/
theorem reference?_rdropWhile {p : Char → Bool} (hmark : p '!' = false)
    (hdigit : ∀ c, p c → c.isDigit = false) {cs : List Char} {r : Reference}
    (h : reference? cs = some r) : reference? (cs.rdropWhile p) = some r := by
  unfold reference? at h
  split at h
  next =>
    rw [List.rdropWhile_eq_self_iff.2 (by simp [hmark])]
    exact h
  next rest _ =>
    obtain ⟨n, hn, rfl⟩ := Option.map_eq_some_iff.1 h
    rw [rdropWhile_cons_of_neg hmark]
    refine reference?_cons ?_
    rw [takeWhile_rdropWhile hdigit, hn]
  next => cases h

end History

namespace Shell

variable {settings : Settings} {s s' : Session} {t : Trace} {raw line : String}

/-- Whether a character may stand at the end of a line without belonging to it. -/
def isLineEnd (c : Char) : Bool := c = '\n' || c = '\r'

theorem toList_withoutLineEnd (raw : String) :
    (withoutLineEnd raw).toList = raw.toList.rdropWhile isLineEnd := String.toList_ofList

/-- A line that means the same whatever the history holds, and that nothing is cut off from. -/
structure Literal (line : String) : Prop where
  notBlank : Text.isBlankText line = false
  unended : ∀ c, line.toList.getLast? = some c → c ≠ '\n' ∧ c ≠ '\r'
  plain : ∀ h : History, h.resolve line = .ok line

theorem withoutLineEnd_eq_iff :
    withoutLineEnd line = line ↔ ∀ c, line.toList.getLast? = some c → c ≠ '\n' ∧ c ≠ '\r' := by
  rw [← String.toList_inj, toList_withoutLineEnd, List.rdropWhile_eq_self_iff]
  have hend : ∀ c, ¬ isLineEnd c = true ↔ c ≠ '\n' ∧ c ≠ '\r' := by simp [isLineEnd]
  constructor
  · intro h c hc
    have hne : line.toList ≠ [] := by
      rintro hnil
      rw [hnil] at hc
      cases hc
    rw [List.getLast?_eq_some_getLast hne] at hc
    exact Option.some.inj hc ▸ (hend _).1 (h hne)
  · exact fun h hne => (hend _).2 (h _ (List.getLast?_eq_some_getLast hne))

theorem withoutLineEnd_withoutLineEnd (raw : String) :
    withoutLineEnd (withoutLineEnd raw) = withoutLineEnd raw := by
  rw [← String.toList_inj, toList_withoutLineEnd, toList_withoutLineEnd, List.rdropWhile_idempotent]

/-- Cutting off the end of a line changes no reference. -/
theorem resolve_withoutLineEnd {h : History} (hline : h.resolve raw = .ok line) (hne : line ≠ raw) :
    h.resolve (withoutLineEnd raw) = .ok line := by
  rw [History.resolve_eq] at hline ⊢
  rcases hreference : History.reference? raw.toList with _ | r
  · rw [hreference] at hline
    exact absurd (Except.ok.inj hline).symm hne
  · rw [hreference] at hline
    rw [toList_withoutLineEnd, History.reference?_rdropWhile (by decide) ?_ hreference]
    · exact hline
    · intro c hc
      rcases Bool.or_eq_true_iff.1 hc with h | h <;> rw [of_decide_eq_true h] <;> rfl

/-- A line that can be resolved is literal itself, or a reference to a line that is kept. -/
theorem resolve_cases {h : History} (hline : h.resolve raw = .ok line) :
    (line ∈ h.lines ∧ Text.isBlankText raw = false) ∨
      (line = raw ∧ ∀ h' : History, h'.resolve raw = .ok raw) := by
  rw [History.resolve_eq] at hline
  rcases hreference : History.reference? raw.toList with _ | r
  · rw [hreference] at hline
    refine .inr ⟨(Except.ok.inj hline).symm, fun h' => ?_⟩
    rw [History.resolve_eq, hreference]
    rfl
  · rw [hreference] at hline
    refine .inl ⟨History.mem_lines_of_referent hline, ?_⟩
    obtain ⟨rest, hrest⟩ := List.head?_eq_some_iff.1 (History.head?_eq_of_reference? hreference)
    have hmark : Text.isBlank '!' = false := by decide
    rw [Text.isBlankText, hrest, List.all_cons, hmark, Bool.false_and]

/-- What a line is recorded as is literal. -/
theorem Literal.of_resolve (hlines : ∀ kept ∈ s.history.lines, Literal kept)
    (hblank : Text.isBlankText (withoutLineEnd raw) = false)
    (hline : s.history.resolve (withoutLineEnd raw) = .ok line) : Literal line := by
  rcases resolve_cases hline with ⟨hmem, -⟩ | ⟨rfl, hplain⟩
  · exact hlines line hmem
  · exact ⟨hblank, withoutLineEnd_eq_iff.1 (withoutLineEnd_withoutLineEnd raw), hplain⟩

theorem literal_push (hlines : ∀ kept ∈ s.history.lines, Literal kept) (hline : Literal line) :
    ∀ kept ∈ (s.history.push line).lines, Literal kept := by
  intro kept hkept
  rcases List.mem_append.1 (List.mem_of_mem_drop hkept) with hkept | hkept
  · exact hlines kept hkept
  · exact List.mem_singleton.1 hkept ▸ hline

theorem literal_processLine {r : Except Failure Flow}
    (hlines : ∀ kept ∈ s.history.lines, Literal kept)
    (hruns : Runs (processLine settings raw) s t r s') (hends : r ≠ .error .stuck) :
    ∀ kept ∈ s'.history.lines, Literal kept := by
  rcases runs_processLine hruns hends with ⟨rfl, -, -⟩ | ⟨line, hblank, hline, hexecuted⟩
  · exact hlines
  · have hpushed := literal_push hlines (.of_resolve hlines hblank hline)
    generalize requested? s raw = request at hexecuted
    cases hexecuted with
    | listed _ _ _ _ hreaped =>
      subst hreaped
      exact hpushed
    | ended _ hdropped =>
      subst hdropped
      exact nofun
    | grown _ _ hgrows =>
      rw [hgrows.1]
      exact hpushed

/-- Only literal lines are recorded. -/
theorem Processes.literal (hrun : Processes settings .fresh t s) :
    ∀ kept ∈ s.history.lines, Literal kept := by
  induction hrun with
  | nil => exact nofun
  | snoc raw before line ends ih => exact literal_processLine ih line ends

/-- A line that is not blank is processed as what it stands for. -/
theorem run_processLine_of_resolve (hblank : Text.isBlankText (withoutLineEnd raw) = false)
    (hline : s.history.resolve (withoutLineEnd raw) = .ok line) :
    ((processLine settings raw).run s : Program _) = (processResolved settings line).run s := by
  unfold processLine
  dsimp only
  rw [if_neg (by simp [hblank]), run_get_bind, hline]

/-- Processing a reference is processing the line that it stands for. -/
theorem processLine_reference (hrun : Processes settings .fresh t s) :
    (∀ kept ∈ s.history.lines, Literal kept) ∧
      ∀ raw line, (s.history.resolve raw = .ok line ∧ line ≠ raw) ∨
          s.history.resolve (withoutLineEnd raw) = .ok line →
        ((processLine settings raw).run s : Program _) = (processLine settings line).run s := by
  refine ⟨hrun.literal, fun raw line h => ?_⟩
  have hline : s.history.resolve (withoutLineEnd raw) = .ok line :=
    h.elim (fun h => resolve_withoutLineEnd h.1 h.2) id
  rcases resolve_cases hline with ⟨hmem, hblank⟩ | ⟨rfl, -⟩
  · have hkept := hrun.literal line hmem
    have hwhole := withoutLineEnd_eq_iff.2 hkept.unended
    have hself : s.history.resolve (withoutLineEnd line) = .ok line := by
      rw [hwhole]
      exact hkept.plain _
    have hnotBlank : Text.isBlankText (withoutLineEnd line) = false := by
      rw [hwhole]
      exact hkept.notBlank
    rw [run_processLine_of_resolve hblank hline, run_processLine_of_resolve hnotBlank hself]
  · rw [processLine, processLine, withoutLineEnd_withoutLineEnd]

theorem processLine_reference_recycled :
    Processes Recycled.silent .fresh (Recycled.foreground ++ Recycled.background)
        Recycled.session ∧
      Recycled.session.history.resolve "!1" = .ok "a" ∧ "a" ≠ "!1" ∧
      ((processLine Recycled.silent "!1").run Recycled.session : Program _) =
        (processLine Recycled.silent "a").run Recycled.session := by
  have hline : Recycled.session.history.resolve "!1" = .ok "a" := by rfl
  have hne : "a" ≠ "!1" := by decide
  have hsame := (processLine_reference Recycled.processes).2 "!1" "a" (.inl ⟨hline, hne⟩)
  exact ⟨Recycled.processes, hline, hne, hsame⟩

end Shell

end JobShell
