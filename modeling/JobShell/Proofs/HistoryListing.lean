import JobShell.Proofs.SlidingWindow

/-!
# The listing of the history

A listing of the history is itself a line, and has been recorded when the history is listed. So it
is the last line that it shows, and the line that had to make room for it is not shown. A reference
in the next line is resolved before that line is recorded, and so by the numbers of the listing.
Main statement: `hist_numbers`.
-/

namespace JobShell

/-- What is said when pieces of text are written one after the other, and each can be. -/
def Trace.ofPieces (pieces : List String) : Trace :=
  pieces.map fun text => ⟨.write text, .ok ()⟩

theorem Trace.writes_ofPieces (pieces : List String) : (ofPieces pieces).Writes :=
  List.forall_mem_map.2 fun _ _ => rfl

namespace Shell

variable {settings : Settings} {s s' : Session} {t : Trace} {raw text line : String}
  {texts pieces : List String}

/-! ## What is written -/

/-- If all can be written, pieces of text are written in one way only. -/
theorem runs_writeAll_iff {r : Except Failure Unit} :
    Runs (writeAll pieces) s t r s' ∧ t.Writes ↔
      t = .ofPieces pieces ∧ r = .ok () ∧ s' = s := by
  induction pieces generalizing t with
  | nil =>
    constructor
    · exact fun h => runs_pure.1 h.1
    · rintro ⟨rfl, hend⟩
      exact ⟨runs_pure.2 ⟨rfl, hend⟩, List.forall_mem_nil _⟩
  | cons piece rest ih =>
    have hcons : Runs (writeAll (piece :: rest)) s t r s' ↔
        Runs (write piece >>= fun _ => writeAll rest) s t r s' := Iff.rfl
    rw [hcons, write, bind_assoc, runs_ask_bind]
    constructor
    · rintro ⟨⟨answer, u, rfl, hu⟩, hwrites⟩
      obtain ⟨hfirst, hlater⟩ := List.forall_mem_cons.1 hwrites
      rcases answer with e | _
      · cases hfirst
      · obtain ⟨rfl, hend⟩ := ih.1 ⟨hu, hlater⟩
        exact ⟨rfl, hend⟩
    · rintro ⟨rfl, hend⟩
      have hwrites := Trace.writes_ofPieces (piece :: rest)
      exact ⟨⟨.ok (), Trace.ofPieces rest, rfl, (ih.2 ⟨rfl, hend⟩).1⟩, hwrites⟩

/-- The history is listed as it is when the built-in command is carried out. -/
theorem runs_hist_iff {arguments : List String} {r : Except Failure Flow} :
    Runs (runBuiltin settings .hist arguments) s t r s' ∧ t.Writes ↔
      t = .ofPieces (s.history.numbered.map historyLine) ∧ r = .ok .proceed ∧ s' = s := by
  have hlist : Runs (runBuiltin settings .hist arguments) s t r s' ↔
      Runs (writeAll (s.history.numbered.map historyLine) >>= fun _ => pure Flow.proceed)
        s t r s' := Iff.rfl
  rw [hlist, runs_bind]
  constructor
  · rintro ⟨⟨_, s₁, u, v, rfl, hu, hv⟩ | ⟨e, rfl, hu⟩, hwrites⟩
    · obtain ⟨rfl, rfl, rfl⟩ := runs_pure.1 hv
      rw [List.append_nil] at hwrites ⊢
      obtain ⟨rfl, -, rfl⟩ := runs_writeAll_iff.1 ⟨hu, hwrites⟩
      exact ⟨rfl, rfl, rfl⟩
    · obtain ⟨-, ⟨⟩, -⟩ := runs_writeAll_iff.1 ⟨hu, hwrites⟩
  · rintro ⟨rfl, rfl, rfl⟩
    obtain ⟨hruns, hwrites⟩ := runs_writeAll_iff.2 ⟨rfl, rfl, rfl⟩
    refine ⟨.inl ⟨(), s', _, [], ?_, hruns, runs_pure.2 ⟨rfl, rfl, rfl⟩⟩, hwrites⟩
    rw [List.append_nil]

theorem map_historyLine (h : History) :
    h.numbered.map historyLine =
      h.lines.mapIdx fun i line => toString (i + 1) ++ ": " ++ line ++ "\n" := by
  rw [History.numbered, List.mapIdx_eq_zipIdx_map, List.mapIdx_eq_zipIdx_map, List.map_map]
  rfl

/-- A line asks for a built-in command by the text that it is recorded as. -/
theorem requested?_eq_some_iff {builtin : Builtin} :
    requested? s raw = some builtin ↔
      ∃ text, recorded? s.history raw = some text ∧ builtinOn? text = some builtin := by
  rw [requested?, recorded?]
  cases Text.isBlankText (withoutLineEnd raw) <;>
    cases s.history.resolve (withoutLineEnd raw) <;> simp [Except.toOption]

/-! ## What the numbers stand for -/

theorem isBlankText_mark (d : String) : Text.isBlankText ("!" ++ d) = false := by
  have hlist : ("!" ++ d).toList = '!' :: d.toList := String.toList_append
  have hmark : Text.isBlank '!' = false := by decide
  rw [Text.isBlankText, hlist, List.all_cons, hmark, Bool.false_and]

/-- A literal line is recorded as it is. -/
theorem Literal.run_processLine (h : Literal line) :
    ((processLine settings line).run s : Program _) = (processResolved settings line).run s := by
  have hwhole := withoutLineEnd_eq_iff.2 h.unended
  refine run_processLine_of_resolve ?_ ?_
  · rw [hwhole]
    exact h.notBlank
  · rw [hwhole]
    exact h.plain _

/-- In the next line an exclamation mark and a number stand for the line at that place of `lines`,
counted from 1, and any other number is refused. -/
structure Addresses (settings : Settings) (s : Session) (lines : List String) : Prop where
  resolves : ∀ (i : Nat) (hi : i < lines.length),
    s.history.resolve ("!" ++ toString (i + 1)) = .ok lines[i]
  recorded : ∀ (i : Nat) (hi : i < lines.length) (next : String),
    withoutLineEnd next = "!" ++ toString (i + 1) → RecordedAs settings s next lines[i]
  processed : ∀ (i : Nat) (hi : i < lines.length) (next : String),
    withoutLineEnd next = "!" ++ toString (i + 1) →
      ((processLine settings next).run s : Program _) = (processLine settings lines[i]).run s
  refused : ∀ n, n = 0 ∨ lines.length < n →
    s.history.resolve ("!" ++ toString n) = .error .invalidHistoryReference
  /-- A reference that is refused changes nothing, and nothing is said to the system. -/
  ignored : ∀ n, n = 0 ∨ lines.length < n → ∀ next : String,
    withoutLineEnd next = "!" ++ toString n →
      ((processLine settings next).run s : Program _) =
        .done (.error (.error .invalidHistoryReference), s)

theorem Addresses.of_literal (hliteral : ∀ kept ∈ s.history.lines, Literal kept)
    (hwindow : s.history = .window texts) : Addresses settings s s.history.lines := by
  have hresolves : ∀ (i : Nat) (hi : i < s.history.lines.length),
      s.history.resolve ("!" ++ toString (i + 1)) = .ok s.history.lines[i] := by
    intro i hi
    rw [History.resolve_numeral _ (numeral_toString _), History.get?_succ,
      List.getElem?_eq_getElem hi, Option.elim_some]
  have hrefused : ∀ n, n = 0 ∨ s.history.lines.length < n →
      s.history.resolve ("!" ++ toString n) = .error .invalidHistoryReference := by
    intro n hn
    rw [History.resolve_numeral _ (numeral_toString _),
      (History.get?_eq_none_iff_number _ n).2 hn, Option.elim_none]
  refine ⟨hresolves, fun i hi next hnext => ?_, fun i hi next hnext => ?_, hrefused,
    fun n hn next hnext => ?_⟩
  all_goals
    have hblank : Text.isBlankText (withoutLineEnd next) = false := by
      rw [hnext]
      exact isBlankText_mark _
  · have hline : s.history.resolve (withoutLineEnd next) = .ok s.history.lines[i] := by
      rw [hnext, hresolves i hi]
    exact .of_recorded hliteral hwindow (recorded?_eq_some_iff.2 ⟨hblank, hline⟩)
  · have hline : s.history.resolve (withoutLineEnd next) = .ok s.history.lines[i] := by
      rw [hnext, hresolves i hi]
    rw [run_processLine_of_resolve hblank hline,
      (hliteral _ (List.getElem_mem hi)).run_processLine]
  · have hline : s.history.resolve (withoutLineEnd next) = .error .invalidHistoryReference := by
      rw [hnext, hrefused n hn]
    unfold processLine
    dsimp only
    rw [if_neg (by simp [hblank]), run_get_bind, hline]
    rfl

/-! ## Both together -/

/-- The line that lists the history numbers the lines from 1 on and shows itself last, behind what
is left of the earlier lines. These are the numbers by which the next line can refer to them. -/
theorem hist_numbers {ps : List Passage} (hrun : Passages settings .fresh ps s)
    (hhist : requested? s raw = some .hist) :
    ∃ text lines, recorded? s.history raw = some text ∧
      lines = (if s.history.length < 20 then s.history.lines ++ [text]
        else (s.history.lines ++ [text]).tail) ∧
      lines.getLast? = some text ∧
      (∀ t r s', Runs (processLine settings raw) s t r s' ∧ t.Writes ↔
        t = .ofPieces (lines.mapIdx fun i line => toString (i + 1) ++ ": " ++ line ++ "\n") ∧
          r = .ok .proceed ∧ s' = ⟨s.table, ⟨20, lines⟩⟩) ∧
      Addresses settings ⟨s.table, ⟨20, lines⟩⟩ lines := by
  obtain ⟨text, hrecorded, hasked⟩ := requested?_eq_some_iff.1 hhist
  obtain ⟨command, hparsed, hbuiltin⟩ := builtinOn?_eq_some_iff.1 hasked
  obtain ⟨_, hprocesses⟩ := hrun.processes
  have hwindow := hrun.history_eq
  set texts := (ps.map (·.raw)).foldl remember []
  -- The text is recorded before the command is carried out.
  have hprogram : ((processLine settings raw).run s : Program _) =
      (runBuiltin settings .hist command.first.arguments).run (s.record text) := by
    rw [run_processLine_of_recorded settings hrecorded,
      run_processResolved_of_parse settings s hparsed, execute_of_builtin? hbuiltin]
  have hnext : (s.record text).history = .window (texts ++ [text]) := by
    rw [Session.record, hwindow, History.push_window]
  have hsession : s.record text = ⟨s.table, ⟨20, (s.history.push text).lines⟩⟩ := by
    rw [Session.record, hwindow]
    rfl
  have hliteral : ∀ kept ∈ (s.record text).history.lines, Literal kept := by
    obtain ⟨hblank, hresolved⟩ := recorded?_eq_some_iff.1 hrecorded
    exact literal_push hprocesses.literal (.of_resolve hprocesses.literal hblank hresolved)
  refine ⟨text, (s.history.push text).lines, hrecorded, ?_, ?_, fun t r s' => ?_, ?_⟩
  -- Both facts about the lines hold of every push, the second one because there is room for a line.
  · rw [hwindow]
    exact History.lines_push (History.length_window_le 20 texts) text
  · rw [hwindow]
    exact History.last?_push (Nat.succ_pos 19) text
  · rw [Runs, hprogram, ← hsession]
    refine runs_hist_iff.trans ?_
    rw [map_historyLine, Session.record]
  · rw [← hsession]
    exact .of_literal hliteral hnext

/-! ### An example

A line that cannot be read is typed until the history is full. -/

namespace Crowded

open Recycled

/-- The lines that are left when one more has been recorded. -/
def lines : List String := "b &" :: List.replicate 18 ">" ++ ["hist"]

def crowded : Session := ⟨session.table, ⟨20, "a" :: "b &" :: List.replicate 18 ">"⟩⟩

theorem runs_unreadable (s : Session) :
    Runs (processLine silent ">") s [] (.error (.error (.parse .emptyRedirect)))
      (s.record ">") := by
  have hline : s.history.resolve (withoutLineEnd ">") = .ok ">" := rfl
  have hparsed : Command.parse ">" = .error (.refused .emptyRedirect) := by decide +kernel
  rw [Runs, run_processLine_of_resolve (by decide) hline, processResolved, run_modify_bind, hparsed]
  exact .done _

theorem exists_passages (n : Nat) :
    ∃ ps, Passages silent .fresh ps ((·.record ">")^[n] session) := by
  induction n with
  | zero =>
    exact ⟨_, .snoc Relisted.second (.snoc Relisted.first (.nil _) runs_foreground nofun)
      runs_background nofun⟩
  | succ n ih =>
    obtain ⟨ps, hps⟩ := ih
    rw [Function.iterate_succ_apply']
    exact ⟨_, .snoc ⟨">", _, [], _, _⟩ hps (runs_unreadable _) nofun⟩

end Crowded

/-- In a full history the first line makes room for the line that lists it, and the second one gets
its number. -/
theorem hist_numbers_crowded :
    (∃ ps, Passages Recycled.silent .fresh ps Crowded.crowded) ∧
      Crowded.crowded.history.length = 20 ∧
      requested? Crowded.crowded "hist\n" = some .hist ∧
      (∀ t r s', Runs (processLine Recycled.silent "hist\n") Crowded.crowded t r s' ∧ t.Writes ↔
        t = .ofPieces
            (Crowded.lines.mapIdx fun i line => toString (i + 1) ++ ": " ++ line ++ "\n") ∧
          r = .ok .proceed ∧ s' = ⟨Recycled.session.table, ⟨20, Crowded.lines⟩⟩) ∧
      Addresses Recycled.silent ⟨Recycled.session.table, ⟨20, Crowded.lines⟩⟩ Crowded.lines := by
  have hcrowded : (·.record ">")^[18] Recycled.session = Crowded.crowded := by decide +kernel
  have hhist : requested? Crowded.crowded "hist\n" = some .hist := by decide +kernel
  obtain ⟨ps, hps⟩ := Crowded.exists_passages 18
  rw [hcrowded] at hps
  obtain ⟨text, _, hrecorded, rfl, -, hwritten, haddresses⟩ := hist_numbers hps hhist
  have hplain : recorded? Crowded.crowded.history "hist\n" = some "hist" := by decide +kernel
  obtain rfl : "hist" = text := Option.some.inj (hplain.symm.trans hrecorded)
  exact ⟨⟨ps, hps⟩, rfl, hhist, hwritten, haddresses⟩

end Shell

end JobShell
