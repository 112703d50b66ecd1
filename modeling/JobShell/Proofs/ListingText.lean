import JobShell.Proofs.LineEffects
import JobShell.Proofs.Numerals

/-!
# Reading a listing back

A listing is a heading and a line for each process, and a line is a row of fields with one space
between any two of them. Where spaces stand next to each other, there are empty fields between them.
So the arguments end before the first empty field behind the number of the process, whatever they
look like, provided that none of them is empty or holds a space or a line feed. `Listing.read?` reads
a listing in this way. The arguments of a command that was typed are words, and so whatever the shell
lists can be read back. Main statement: `listing_legible`.
-/

namespace JobShell

/-- Whether the arguments of an entry can be told apart on its line. -/
def Entry.IsLegible (e : Entry) : Prop :=
  ∀ arg ∈ e.arguments, arg ≠ "" ∧ ' ' ∉ arg.toList ∧ '\n' ∉ arg.toList

instance (e : Entry) : Decidable e.IsLegible :=
  inferInstanceAs (Decidable (∀ arg ∈ e.arguments, _))

/-! ## Numbers and statuses -/

namespace Pid

/-- The process number that digits show, perhaps behind a minus sign. -/
def read? : List Char → Option Pid
  | '-' :: cs => (digits? cs).map fun n : Nat => ⟨-(n : Int)⟩
  | cs => (digits? cs).map fun n : Nat => ⟨(n : Int)⟩

/-- A process number is written as a numeral, and with a minus sign if it is negative. -/
theorem toList_text (p : Pid) :
    (∃ n : Nat, p = ⟨n⟩ ∧ p.text.toList = (toString n).toList) ∨
      ∃ n : Nat, p = ⟨-n⟩ ∧ p.text.toList = '-' :: (toString n).toList := by
  obtain ⟨number⟩ := p
  cases number with
  | ofNat n => exact .inl ⟨n, rfl, rfl⟩
  | negSucc n => exact .inr ⟨n + 1, rfl, String.toList_append⟩

theorem read?_text (p : Pid) : read? p.text.toList = some p := by
  rcases p.toList_text with ⟨n, hp, htext⟩ | ⟨n, hp, htext⟩
  · have hnumeral := numeral_toString n
    rw [htext, read?, digits?_eq_some_iff.2 hnumeral, Option.map_some, hp]
    exact hnumeral.ne_cons rfl
  · rw [htext, read?, digits?_eq_some_iff.2 (numeral_toString n), Option.map_some, hp]

end Pid

/-- The status that a word shows. -/
def Status.read? (cs : List Char) : Option Status :=
  [running, suspended, terminated].find? (·.text.toList = cs)

theorem Status.read?_text (status : Status) : read? status.text.toList = some status := by
  cases status <;> decide

namespace Listing

variable {e : Entry} {entries : List Entry}

/-! ## Lines and fields -/

/-- What stands between the spaces of a line. -/
def fields (e : Entry) : List (List Char) :=
  [(toString e.index).toList, [], e.pid.text.toList, []] ++ e.arguments.map String.toList ++
    [[], [], [], [], e.status.text.toList]

/-- The line of an entry, without the line feed behind it. -/
def line (e : Entry) : List Char := [' '].intercalate (fields e)

/-- The heading, without the line feed behind it. -/
def title : List Char := "Index   PID   Command   STATUS".toList

/-- In a row of parts, each part that has others behind it has a separator behind it. -/
theorem intercalate_append {α : Type} (separator : List α) (parts : List (List α))
    {rest : List (List α)} (hrest : rest ≠ []) :
    separator.intercalate (parts ++ rest) =
      parts.flatMap (· ++ separator) ++ separator.intercalate rest := by
  induction parts with
  | nil => rfl
  | cons part parts ih =>
    have hmore : parts ++ rest ≠ [] := List.append_ne_nil_of_right_ne_nil parts hrest
    rw [List.cons_append, List.intercalate_cons_of_ne_nil hmore, ih, List.flatMap_cons,
      List.append_assoc, List.append_assoc, List.append_assoc]

theorem toList_entryPieces (e : Entry) :
    (entryPieces e).flatMap String.toList = line e ++ ['\n'] := by
  rw [line, fields, intercalate_append _ _ (List.cons_ne_nil _ _), entryPieces]
  simp [List.intercalate_cons_cons, List.flatMap_map]

/-- A listing is a row of lines, with nothing behind the last line feed. -/
theorem toList_text (entries : List Entry) :
    (text entries).toList = ['\n'].intercalate (title :: entries.map line ++ [[]]) := by
  have hheading : heading.toList = title ++ ['\n'] := rfl
  have hentries : (entries.flatMap entryPieces).flatMap String.toList =
      (entries.map line).flatMap (· ++ ['\n']) := by
    rw [List.flatMap_assoc, List.flatMap_map]
    exact congrArg (entries.flatMap ·) (funext toList_entryPieces)
  rw [intercalate_append _ _ (List.cons_ne_nil _ _), List.flatMap_cons, List.intercalate_singleton,
    List.append_nil, text, String.toList_join, pieces, List.flatMap_cons, hheading, hentries]

/-- A character that occurs neither in numbers nor in statuses is in a field only if it is in an
argument. -/
theorem notMem_of_mem_fields {c : Char} (hdigit : c.isDigit = false) (hminus : c ≠ '-')
    (hstatus : ∀ status : Status, c ∉ status.text.toList)
    (harguments : ∀ arg ∈ e.arguments, c ∉ arg.toList) : ∀ field ∈ fields e, c ∉ field := by
  have hnumber : ∀ n : Nat, c ∉ (toString n).toList := by
    intro n hc
    have hall := (numeral_toString n).all_isDigit c hc
    rw [hdigit] at hall
    cases hall
  have hpid : c ∉ e.pid.text.toList := by
    rcases e.pid.toList_text with ⟨n, -, htext⟩ | ⟨n, -, htext⟩
    · rw [htext]
      exact hnumber n
    · rw [htext, List.mem_cons, not_or]
      exact ⟨hminus, hnumber n⟩
  have hempty : c ∉ ([] : List Char) := List.not_mem_nil
  have hargs : ∀ field ∈ e.arguments.map String.toList, c ∉ field :=
    List.forall_mem_map.2 harguments
  simp only [fields, List.forall_mem_append, List.forall_mem_cons]
  exact ⟨⟨⟨hnumber e.index, hempty, hpid, hempty, List.forall_mem_nil _⟩, hargs⟩, hempty, hempty,
    hempty, hempty, hstatus e.status, List.forall_mem_nil _⟩

theorem notMem_intercalate {α : Type} {a : α} {separator : List α} {parts : List (List α)}
    (hseparator : a ∉ separator) (hparts : ∀ part ∈ parts, a ∉ part) :
    a ∉ separator.intercalate parts := by
  induction parts with
  | nil => exact List.not_mem_nil
  | cons part parts ih =>
    obtain ⟨hpart, hmore⟩ := List.forall_mem_cons.1 hparts
    cases parts with
    | nil =>
      rw [List.intercalate_singleton]
      exact hpart
    | cons next parts =>
      rw [List.intercalate_cons_cons, List.mem_append, List.mem_append, not_or, not_or]
      exact ⟨⟨hpart, hseparator⟩, ih hmore⟩

/-- A line falls apart into its fields at the spaces. -/
theorem splitOn_line (h : e.IsLegible) : (line e).splitOn ' ' = fields e := by
  have hstatus : ∀ status : Status, ' ' ∉ status.text.toList := by
    intro status
    cases status <;> decide
  have hfields : ∀ field ∈ fields e, ' ' ∉ field :=
    notMem_of_mem_fields rfl (by decide) hstatus fun arg harg => (h arg harg).2.1
  exact List.splitOn_intercalate ' ' hfields (List.cons_ne_nil _ _)

/-- No line feed stands within a line. -/
theorem lineFeed_notMem_line (h : e.IsLegible) : '\n' ∉ line e := by
  have hstatus : ∀ status : Status, '\n' ∉ status.text.toList := by
    intro status
    cases status <;> decide
  have hfields : ∀ field ∈ fields e, '\n' ∉ field :=
    notMem_of_mem_fields rfl (by decide) hstatus fun arg harg => (h arg harg).2.2
  exact notMem_intercalate (by decide) hfields

/-- A listing falls apart into its lines at the line feeds. -/
theorem splitOn_text (h : ∀ e ∈ entries, e.IsLegible) :
    (text entries).toList.splitOn '\n' = title :: entries.map line ++ [[]] := by
  have hlines : ∀ l ∈ title :: entries.map line ++ [[]], '\n' ∉ l := by
    rw [List.cons_append, List.forall_mem_cons, List.forall_mem_append, List.forall_mem_map]
    refine ⟨by decide, fun e he => lineFeed_notMem_line (h e he), ?_⟩
    exact List.forall_mem_singleton.2 List.not_mem_nil
  rw [toList_text]
  exact List.splitOn_intercalate '\n' hlines (List.cons_ne_nil _ _)

/-! ## Reading -/

/-- The entry that a line shows. Its arguments are the fields up to the first empty one. -/
def readLine? (cs : List Char) : Option Entry :=
  match cs.splitOn ' ' with
  | index :: [] :: pid :: [] :: rest =>
    match rest.dropWhile (· ≠ []) with
    | [[], [], [], [], status] => do
      let index ← Pid.digits? index
      let pid ← Pid.read? pid
      let status ← Status.read? status
      return ⟨index, pid, (rest.takeWhile (· ≠ [])).map String.ofList, status⟩
    | _ => none
  | _ => none

/-- The entries that a listing shows. -/
def read? (listing : String) : Option (List Entry) :=
  match listing.toList.splitOn '\n' with
  | first :: rest =>
    if first = title ∧ rest.getLast? = some [] then rest.dropLast.mapM readLine? else none
  | [] => none

theorem readLine?_line (h : e.IsLegible) : readLine? (line e) = some e := by
  have hargs : ∀ field ∈ e.arguments.map String.toList, decide (field ≠ []) = true := by
    rw [List.forall_mem_map]
    intro arg harg
    have hne : arg.toList ≠ [] := fun hnil => (h arg harg).1 (String.toList_eq_nil_iff.1 hnil)
    exact decide_eq_true hne
  set args := e.arguments.map String.toList with hdef
  set status := e.status.text.toList
  -- The first of the empty fields in front of the status is where the arguments end.
  have htaken : (args ++ [[], [], [], [], status]).takeWhile (· ≠ []) = args := by
    rw [List.takeWhile_append_of_pos hargs, List.takeWhile_cons_of_neg (by decide), List.append_nil]
  have hdropped : (args ++ [[], [], [], [], status]).dropWhile (· ≠ []) =
      [[], [], [], [], status] := by
    rw [List.dropWhile_append_of_pos hargs, List.dropWhile_cons_of_neg (by decide)]
  have harguments : args.map String.ofList = e.arguments := by
    rw [hdef, List.map_map]
    exact (List.map_congr_left fun arg _ => String.ofList_toList).trans (List.map_id _)
  have hindex := Pid.digits?_eq_some_iff.2 (numeral_toString e.index)
  have hpid := Pid.read?_text e.pid
  have hstatus : Status.read? status = some e.status := Status.read?_text e.status
  have hsplit : (line e).splitOn ' ' = (toString e.index).toList :: [] :: e.pid.text.toList :: [] ::
      (args ++ [[], [], [], [], status]) := splitOn_line h
  rw [readLine?, hsplit]
  dsimp only
  rw [hdropped]
  dsimp only
  rw [htaken, harguments, hindex, hpid, hstatus]
  rfl

/-- A listing is read back as it was. -/
theorem read?_text (h : ∀ e ∈ entries, e.IsLegible) : read? (text entries) = some entries := by
  have hlines : (entries.map line).mapM readLine? = some entries := by
    induction entries with
    | nil => rfl
    | cons e rest ih =>
      obtain ⟨hfirst, hrest⟩ := List.forall_mem_cons.1 h
      rw [List.map_cons, List.mapM_cons, readLine?_line hfirst, ih hrest]
      rfl
  rw [read?, splitOn_text h, List.cons_append]
  dsimp only
  rw [if_pos ⟨rfl, List.getLast?_concat⟩, List.dropLast_concat, hlines]

-- A space in an argument makes it look like two.
example : text [⟨0, ⟨7⟩, ["a b"], .running⟩] = text [⟨0, ⟨7⟩, ["a", "b"], .running⟩] := by
  decide +kernel

end Listing

/-! ## Listings of the shell -/

/-- The words of a stage can be told apart. -/
theorem Stage.WellFormed.isLegible {e : Entry} {stage : Stage} (h : stage.WellFormed)
    (he : e.arguments = stage.arguments) : e.IsLegible := by
  intro arg harg
  rw [he] at harg
  obtain ⟨hne, hchars⟩ := h.arguments arg harg
  exact ⟨hne, fun hspace => hchars ' ' hspace (by decide),
    fun hfeed => hchars '\n' hfeed (by decide)⟩

/-- Everything that a table is about stood on a line. -/
def Table.IsWorded (t : Table) : Prop := ∀ subject ∈ t.subjects, subject.2.first.WellFormed

theorem Table.IsWorded.isLegible {t : Table} (h : t.IsWorded) : ∀ e ∈ t.entries, e.IsLegible := by
  intro e he
  obtain ⟨i, hi, rfl⟩ := List.mem_mapIdx.1 he
  have hsubject : t.records[i].subject ∈ t.subjects := List.mem_map_of_mem (List.getElem_mem hi)
  exact (h _ hsubject).isLegible rfl

namespace Shell

variable {settings : Settings} {s s' : Session} {t : Trace} {r : Except Failure Flow} {raw : String}

/-- A process is made only for a stage that stood on a line. -/
theorem wellFormed_births (h : Runs (processLine settings raw) s t r s') :
    ∀ birth ∈ t.births, birth.2.first.WellFormed := by
  rcases runs_processLine_cases h with ⟨-, htrace, -, -⟩ | ⟨text, -, hhandled⟩
  · rw [htrace]
    exact List.forall_mem_nil _
  · rcases hhandled.launch_cases with ⟨command, hparsed, -, hlaunched⟩ | hunlaunched
    · intro birth hbirth
      have hcommand := Command.wellFormed_of_parse hparsed
      have hmem : birth.2 ∈ command.stages.map .single :=
        hlaunched.births.subset (List.mem_map_of_mem hbirth)
      obtain ⟨stage, hstage, hsingle⟩ := List.mem_map.1 hmem
      rw [← hsingle]
      exact Command.wellFormed_of_mem_stages hcommand stage hstage
    · rw [(Trace.births_refusals_of_forall hunlaunched.calls).1]
      exact List.forall_mem_nil _

theorem isWorded_processLine (hbefore : s.table.IsWorded)
    (h : Runs (processLine settings raw) s t r s') (hends : r ≠ .error .stuck) :
    s'.table.IsWorded := by
  have hbirths := wellFormed_births h
  rcases runs_processLine h hends with ⟨rfl, -, -⟩ | ⟨line, -, -, hexecuted⟩
  · exact hbefore
  · generalize requested? s raw = request at hexecuted
    cases hexecuted with
    | @listed seen u v trace refreshed births written reaped =>
      have hsubjects := Table.subjects_eq_of_settles (settles_of_runs_refresh refreshed)
      have hkept : seen.reap.subjects ⊆ seen.subjects :=
        List.map_subset _ (List.filter_subset_self ..)
      subst reaped
      exact fun subject hsubject => hbefore subject (hsubjects ▸ hkept hsubject)
    | ended trace dropped =>
      subst dropped
      exact List.forall_mem_nil _
    | grown hprocs hquit grows =>
      have hsubjects : s'.table.subjects = t.births.reverse ++ s.table.subjects := grows.2
      intro subject hsubject
      rw [hsubjects, List.mem_append, List.mem_reverse] at hsubject
      exact hsubject.elim (hbirths subject) (hbefore subject)

/-- Between two lines the table is about nothing else than what stood on lines. -/
theorem Passages.isWorded {ps : List Passage} (hrun : Passages settings .fresh ps s) :
    s.table.IsWorded := by
  induction hrun with
  | nil => exact List.forall_mem_nil _
  | snoc p earlier line ends ih => exact isWorded_processLine ih line ends

/-- What a listing of the processes comes to that shows `entries`. -/
structure ShowsLegibly (settings : Settings) (s : Session) (t : Trace) (s' : Session)
    (entries : List Entry) : Prop where
  /-- They are the records as a refresh finds them, of which the dead ones are dropped. -/
  refreshed : ∃ seen u v s₁, t = u ++ v ∧
    Runs (s.table.refresh (poll settings)) s₁ u (.ok seen) s₁ ∧
      entries = seen.entries ∧ s'.table = seen.reap
  legible : ∀ e ∈ entries, e.IsLegible
  /-- If all can be written, they are written down, and they are what the text says. -/
  written : t.Writes → t.written = Listing.pieces entries ∧
    Listing.read? (String.join t.written) = some entries

/-- A listing has a line for each entry behind its heading, and is read back as it was, so it is the
listing of no other entries; and every listing of the shell is of this kind, in any session that
lines lead to. -/
theorem listing_legible (settings : Settings) :
    (∀ entries : List Entry, (∀ e ∈ entries, e.IsLegible) →
      (Listing.text entries).toList.splitOn '\n' =
          Listing.title :: entries.map Listing.line ++ [[]] ∧
        Listing.read? (Listing.text entries) = some entries ∧
        ∀ entries' : List Entry, (∀ e ∈ entries', e.IsLegible) →
          Listing.text entries' = Listing.text entries → entries' = entries) ∧
    ∀ ps s raw t r s', Passages settings .fresh ps s → requested? s raw = some .procs →
      Runs (processLine settings raw) s t r s' → r ≠ .error .stuck →
        ∃ entries, ShowsLegibly settings s t s' entries := by
  refine ⟨fun entries hlegible => ?_, fun ps s raw t r s' hrun hprocs hruns hends => ?_⟩
  · have hread := Listing.read?_text hlegible
    refine ⟨Listing.splitOn_text hlegible, hread, fun entries' hlegible' htext => ?_⟩
    have hread' := Listing.read?_text hlegible'
    rw [htext, hread] at hread'
    exact (Option.some.inj hread').symm
  · rcases runs_processLine hruns hends with ⟨-, -, hnone⟩ | ⟨line, -, -, hexecuted⟩
    · rw [hprocs] at hnone
      cases hnone
    · rw [hprocs] at hexecuted
      cases hexecuted with
      | grown hnot => exact absurd rfl hnot
      | @listed seen u v trace refreshed births written reaped =>
        have hsubjects := Table.subjects_eq_of_settles (settles_of_runs_refresh refreshed)
        have hworded : seen.IsWorded := by
          rw [Table.IsWorded, hsubjects]
          exact hrun.isWorded
        refine ⟨seen.entries, ⟨seen, u, v, _, trace, refreshed, rfl, congrArg Session.table reaped⟩,
          hworded.isLegible, fun hwrites => ?_⟩
        have hpieces := written hwrites
        refine ⟨hpieces, ?_⟩
        rw [hpieces]
        exact Listing.read?_text hworded.isLegible

/-- An entry whose arguments look like an index and a status, and the listing at the end of
`Relisted`. -/
theorem listing_legible_relisted :
    let entry : Entry := ⟨1, ⟨-4⟩, ["0", "Running"], .suspended⟩
    let entries : List Entry := [⟨0, ⟨7⟩, ["b"], .running⟩, ⟨1, ⟨7⟩, ["a"], .terminated⟩]
    entry.IsLegible ∧ Listing.read? (Listing.text [entry]) = some [entry] ∧
      Passages Recycled.silent .fresh [Relisted.first, Relisted.second] Recycled.session ∧
      requested? Recycled.session "procs" = some .procs ∧
      Runs (processLine Recycled.silent "procs") Recycled.session Relisted.listing (.ok .proceed)
        Recycled.afterListing ∧
      Relisted.listing.Writes ∧
      ShowsLegibly Recycled.silent Recycled.session Relisted.listing Recycled.afterListing
        entries := by
  intro entry entries
  obtain ⟨hreads, hlists⟩ := listing_legible Recycled.silent
  have hentry : entry.IsLegible := by decide
  have hread : Listing.read? (Listing.text [entry]) = some [entry] :=
    (hreads [entry] (List.forall_mem_singleton.2 hentry)).2.1
  have hrun : Passages Recycled.silent .fresh [Relisted.first, Relisted.second] Recycled.session :=
    .snoc Relisted.second (.snoc Relisted.first (.nil _) Recycled.runs_foreground nofun)
      Recycled.runs_background nofun
  have hprocs : requested? Recycled.session "procs" = some .procs := by decide +kernel
  have hwrites : Relisted.listing.Writes := by decide
  obtain ⟨shown, hshown⟩ := hlists _ _ _ _ _ _ hrun hprocs Relisted.runs_listing nofun
  -- The text that was written says which entries these are.
  have htext : String.join Relisted.listing.written = Listing.text entries := by decide +kernel
  have hentries := (hshown.written hwrites).2
  rw [htext, (hreads entries (by decide)).2.1] at hentries
  obtain rfl : entries = shown := Option.some.inj hentries
  exact ⟨hentry, hread, hrun, hprocs, Relisted.runs_listing, hwrites, hshown⟩

end Shell

end JobShell
