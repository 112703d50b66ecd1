import JobShell.Proofs.Reading

/-!
# Reading what has been written

The commands that a line can hold are the well-formed ones, and such a command, typed as `render`
types it, is read back as it was. An ampersand, which `render` does not write, is what puts a
command into the background.

`readTokens_render` is stated for a stage in front of anything that ends it; the shapes of a
command differ only in what that is.
-/

namespace JobShell

/-! ## Well-formed commands -/

/-- A text that can stand on a line as one word. -/
def IsWord (s : String) : Prop := s ≠ "" ∧ ∀ c ∈ s.toList, c ∉ Command.Grammar.reserved

instance (s : String) : Decidable (IsWord s) :=
  decidable_of_iff (s ≠ "" ∧ s.toList.all fun c => c ∉ Command.Grammar.reserved)
    (by simp [IsWord])

/-- A stage made of words, as far as it goes. -/
structure Stage.OfWords (s : Stage) : Prop where
  arguments : ∀ a ∈ s.arguments, IsWord a
  input : ∀ path ∈ s.input, IsWord path
  output : ∀ path ∈ s.output, IsWord path

/-- A stage that can stand on a line: it is made of words, and has arguments. -/
structure Stage.WellFormed (s : Stage) : Prop extends Stage.OfWords s where
  arguments_ne_nil : s.arguments ≠ []

instance (s : Stage) : Decidable s.WellFormed :=
  decidable_of_iff
    (((∀ a ∈ s.arguments, IsWord a) ∧ (∀ path ∈ s.input, IsWord path) ∧
      ∀ path ∈ s.output, IsWord path) ∧ s.arguments ≠ [])
    ⟨fun ⟨⟨ha, hi, ho⟩, hne⟩ => ⟨⟨ha, hi, ho⟩, hne⟩,
      fun h => ⟨⟨h.arguments, h.input, h.output⟩, h.arguments_ne_nil⟩⟩

namespace Command

/-- A command that can stand on a line: one or two well-formed stages, both waited for or neither. -/
structure WellFormed (c : Command) : Prop where
  first : c.first.WellFormed
  rest : ∀ s ∈ c.rest, s.WellFormed
  length_rest : c.rest.length ≤ 1
  blocking : ∀ s ∈ c.rest, s.blocking = c.first.blocking

instance (c : Command) : Decidable c.WellFormed :=
  decidable_of_iff
    (c.first.WellFormed ∧ (∀ s ∈ c.rest, s.WellFormed) ∧ c.rest.length ≤ 1 ∧
      ∀ s ∈ c.rest, s.blocking = c.first.blocking)
    ⟨fun ⟨hf, hr, hl, hb⟩ => ⟨hf, hr, hl, hb⟩,
      fun h => ⟨h.first, h.rest, h.length_rest, h.blocking⟩⟩

namespace Grammar

/-! ## What the grammar makes is well formed -/

/-- A word of a line is made of word characters. -/
def Token.WellFormed : Token → Prop
  | .word c cs => ∀ d ∈ c :: cs, isWordChar d = true
  | _ => True

theorem wellFormed_of_operator? {c : Char} {t : Token} (h : operator? c = some t) :
    t.WellFormed := by
  unfold operator? at h
  split at h <;> cases h <;> trivial

theorem wellFormed_of_mem_tokens (cs : List Char) : ∀ t ∈ tokens cs, t.WellFormed := by
  fun_induction tokens cs with
  | case1 => simp
  | case2 c cs hc ih => exact ih
  | case3 c cs hc t ht ih =>
    rw [List.forall_mem_cons]
    exact ⟨wellFormed_of_operator? ht, ih⟩
  | case4 c cs hc ho ih =>
    rw [List.forall_mem_cons]
    refine ⟨fun d hd => ?_, ih⟩
    rcases List.mem_cons.1 hd with rfl | hd
    · simp [isWordChar, hc, ho]
    · exact List.all_eq_true.1 List.all_takeWhile d hd

theorem isWord_ofList {c : Char} {cs : List Char} (h : (Token.word c cs).WellFormed) :
    IsWord (String.ofList (c :: cs)) := by
  refine ⟨?_, fun d hd => ?_⟩
  · rw [ne_eq, String.ext_iff, String.toList_ofList]
    exact List.cons_ne_nil c cs
  · rw [String.toList_ofList] at hd
    rw [← isWordChar_eq_false_iff, h d hd]
    decide

theorem wellFormed_assemble {before : Option Stage} {last : Stage} (blocking : Bool)
    (hbefore : ∀ s ∈ before, s.WellFormed) (hlast : last.WellFormed) :
    (assemble before last blocking).WellFormed := by
  have hmode : ∀ {s : Stage}, s.WellFormed → { s with blocking }.WellFormed := fun hs =>
    ⟨⟨hs.arguments, hs.input, hs.output⟩, hs.arguments_ne_nil⟩
  cases before with
  | none => exact ⟨hmode hlast, by simp [assemble], by simp [assemble], by simp [assemble]⟩
  | some first =>
    refine ⟨hmode (hbefore first rfl), ?_, by simp [assemble], by simp [assemble]⟩
    intro s hs
    rw [List.mem_singleton.1 hs]
    exact hmode hlast

/-- What has been read stays made of words, whatever the next token is. -/
theorem wellFormed_of_readTokens {before : Option Stage} {stage : Stage} {ts : List Token}
    {c : Command} (hts : ∀ t ∈ ts, t.WellFormed) (hbefore : ∀ s ∈ before, s.WellFormed)
    (hstage : stage.OfWords) (h : readTokens before stage ts = .ok c) : c.WellFormed := by
  fun_induction readTokens before stage ts with
  | case1 before stage d ds rest ih =>
    rw [List.forall_mem_cons] at hts
    refine ih hts.2 hbefore ⟨fun a ha => ?_, hstage.input, hstage.output⟩ h
    rcases List.mem_append.1 ha with ha | ha
    · exact hstage.arguments a ha
    · rw [List.mem_singleton.1 ha]
      exact isWord_ofList hts.1
  | case2 before stage d ds rest ih =>
    rw [List.forall_mem_cons, List.forall_mem_cons] at hts
    refine ih hts.2.2 hbefore ⟨hstage.arguments, ?_, hstage.output⟩ h
    intro path ha
    cases ha
    exact isWord_ofList hts.2.1
  | case3 before stage d ds rest ih =>
    rw [List.forall_mem_cons, List.forall_mem_cons] at hts
    refine ih hts.2.2 hbefore ⟨hstage.arguments, hstage.input, ?_⟩ h
    intro path ha
    cases ha
    exact isWord_ofList hts.2.1
  | case7 stage rest hargs ih =>
    rw [List.forall_mem_cons] at hts
    refine ih hts.2 ?_ ⟨by simp [Stage.ofArguments], by simp [Stage.ofArguments],
      by simp [Stage.ofArguments]⟩ h
    intro s ha
    cases ha
    exact ⟨hstage, hargs⟩
  | case10 before stage hargs =>
    cases h
    exact wellFormed_assemble false hbefore ⟨hstage, hargs⟩
  | case13 before stage hargs =>
    cases h
    exact wellFormed_assemble true hbefore ⟨hstage, hargs⟩
  | _ => cases h

theorem wellFormed_of_ofTokens {cs : List Char} {c : Command}
    (h : ofTokens (tokens cs) = .ok (some c)) : c.WellFormed := by
  rw [ofTokens] at h
  split at h
  · cases h
  · cases hread : readTokens none (.ofArguments []) (tokens cs) with
    | error e =>
      rw [hread] at h
      cases h
    | ok c' =>
      rw [hread] at h
      cases h
      refine wellFormed_of_readTokens (wellFormed_of_mem_tokens cs) (by simp) ?_ hread
      exact ⟨by simp [Stage.ofArguments], by simp [Stage.ofArguments], by simp [Stage.ofArguments]⟩

/-! ## A rendered stage is read back -/

/-- No word goes on into `rest`. -/
def EndsWord (rest : List Char) : Prop := ∀ c ∈ rest.head?, isWordChar c = false

theorem endsWord_cons {c : Char} (hc : c ∈ reserved) (cs : List Char) : EndsWord (c :: cs) := by
  intro d ha
  cases ha
  exact (isWordChar_eq_false_iff c).2 hc

/-- A word in front of anything that ends it is the next token. -/
theorem tokens_word {w : String} (hw : IsWord w) {rest : List Char} (hrest : EndsWord rest) :
    ∃ c cs, w = String.ofList (c :: cs) ∧ tokens (w.toList ++ rest) = .word c cs :: tokens rest := by
  have hchars : ∀ d ∈ w.toList, isWordChar d = true := fun d hd =>
    Bool.of_not_eq_false fun hf => hw.2 d hd ((isWordChar_eq_false_iff d).1 hf)
  cases hcs : w.toList with
  | nil => exact absurd (String.toList_eq_nil_iff.1 hcs) hw.1
  | cons c cs =>
    rw [hcs, List.forall_mem_cons] at hchars
    have htake : rest.takeWhile isWordChar = [] ∧ rest.dropWhile isWordChar = rest := by
      cases rest with
      | nil => exact ⟨rfl, rfl⟩
      | cons d ds =>
        have hd : ¬isWordChar d = true := by simp [hrest d rfl]
        exact ⟨List.takeWhile_cons_of_neg hd, List.dropWhile_cons_of_neg hd⟩
    refine ⟨c, cs, by rw [← hcs, String.ofList_toList], ?_⟩
    rw [List.cons_append, tokens_wordChar hchars.1, List.takeWhile_append_of_pos hchars.2,
      List.dropWhile_append_of_pos hchars.2, htake.1, htake.2, List.append_nil]

/-- Arguments in front of anything that ends a word are read one by one. -/
theorem readTokens_arguments (before : Option Stage) (stage : Stage) {args : List String}
    (hargs : ∀ a ∈ args, IsWord a) {rest : List Char} (hrest : EndsWord rest) :
    readTokens before stage (tokens ((" ".intercalate args).toList ++ rest)) =
      readTokens before { stage with arguments := stage.arguments ++ args } (tokens rest) := by
  induction args generalizing stage with
  | nil => simp
  | cons a args ih =>
    rw [List.forall_mem_cons] at hargs
    cases args with
    | nil =>
      obtain ⟨c, cs, rfl, hts⟩ := tokens_word hargs.1 hrest
      rw [String.intercalate_singleton, hts, readTokens]
    | cons b args =>
      have hspace : EndsWord (' ' :: ((" ".intercalate (b :: args)).toList ++ rest)) :=
        endsWord_cons (by decide) _
      obtain ⟨c, cs, rfl, hts⟩ := tokens_word hargs.1 hspace
      rw [String.intercalate_cons_cons, String.toList_append, String.toList_append,
        List.append_assoc, List.append_assoc, show " ".toList = [' '] from rfl,
        List.singleton_append, hts, readTokens, tokens_separator rfl, ih _ hargs.2,
        List.append_assoc, List.singleton_append]

/-- How a redirection is typed, if there is one. -/
def redirection (operator : Char) : Option String → List Char
  | some path => ' ' :: operator :: ' ' :: path.toList
  | none => []

theorem toList_render (s : Stage) :
    s.render.toList =
      (" ".intercalate s.arguments).toList ++ redirection '<' s.input ++ redirection '>' s.output := by
  rw [Stage.render, String.toList_append, String.toList_append]
  cases s.input <;> cases s.output <;> simp [redirection]

theorem endsWord_redirection (operator : Char) (path : Option String) {rest : List Char}
    (hrest : EndsWord rest) : EndsWord (redirection operator path ++ rest) := by
  cases path with
  | none => exact hrest
  | some p => exact endsWord_cons (by decide) _

/-- A redirection is two tokens: its operator, and the file as a word. -/
theorem tokens_redirection {operator : Char} {t : Token} (ht : operator? operator = some t)
    {p : String} (hp : IsWord p) {rest : List Char} (hrest : EndsWord rest) :
    ∃ c cs, p = String.ofList (c :: cs) ∧
      tokens (redirection operator (some p) ++ rest) = t :: .word c cs :: tokens rest := by
  obtain ⟨c, cs, hpcs, hts⟩ := tokens_word hp hrest
  refine ⟨c, cs, hpcs, ?_⟩
  show tokens (' ' :: operator :: ' ' :: (p.toList ++ rest)) = _
  rw [tokens_separator rfl, tokens_operator ht, tokens_separator rfl, hts]

theorem readTokens_input (before : Option Stage) (stage : Stage) (hnone : stage.input = none)
    {path : Option String} (hpath : ∀ p ∈ path, IsWord p) {rest : List Char}
    (hrest : EndsWord rest) :
    readTokens before stage (tokens (redirection '<' path ++ rest)) =
      readTokens before { stage with input := path } (tokens rest) := by
  cases path with
  | none =>
    obtain ⟨arguments, input, output, blocking⟩ := stage
    cases hnone
    rfl
  | some p =>
    obtain ⟨c, cs, rfl, hts⟩ := tokens_redirection (show operator? '<' = some .less from rfl)
      (hpath p rfl) hrest
    rw [hts, readTokens]

theorem readTokens_output (before : Option Stage) (stage : Stage) (hnone : stage.output = none)
    {path : Option String} (hpath : ∀ p ∈ path, IsWord p) {rest : List Char}
    (hrest : EndsWord rest) :
    readTokens before stage (tokens (redirection '>' path ++ rest)) =
      readTokens before { stage with output := path } (tokens rest) := by
  cases path with
  | none =>
    obtain ⟨arguments, input, output, blocking⟩ := stage
    cases hnone
    rfl
  | some p =>
    obtain ⟨c, cs, rfl, hts⟩ := tokens_redirection (show operator? '>' = some .greater from rfl)
      (hpath p rfl) hrest
    rw [hts, readTokens]

/-- A rendered stage in front of anything that ends a word is read back whole. -/
theorem readTokens_render (before : Option Stage) {s : Stage} (hs : s.WellFormed)
    {rest : List Char} (hrest : EndsWord rest) :
    readTokens before (.ofArguments []) (tokens (s.render.toList ++ rest)) =
      readTokens before { s with blocking := true } (tokens rest) := by
  have houtput := endsWord_redirection '>' s.output hrest
  have hinput := endsWord_redirection '<' s.input houtput
  rw [toList_render, List.append_assoc, List.append_assoc, readTokens_arguments _ _ hs.arguments hinput,
    readTokens_input _ _ rfl hs.input houtput, readTokens_output _ _ rfl hs.output hrest]
  rfl

/-! ## A rendered command is read back -/

/-- What may stand behind the last stage of a command: `tail` puts it into the given mode. -/
def Ends (tail : List Char) (blocking : Bool) : Prop :=
  EndsWord tail ∧ ∀ (before : Option Stage) (stage : Stage), stage.arguments ≠ [] →
    readTokens before stage (tokens tail) = .ok (assemble before stage blocking)

theorem ends_nil : Ends [] true := by
  refine ⟨by rintro c ⟨⟩, fun before stage hargs => ?_⟩
  rw [tokens_nil, readTokens_nil, if_neg hargs]

theorem ends_ampersand : Ends [' ', '&'] false := by
  refine ⟨endsWord_cons (by decide) _, fun before stage hargs => ?_⟩
  rw [tokens_separator rfl, tokens_operator rfl, tokens_nil, readTokens_ampersand, if_neg hargs]

/-- A rendered command with its ending is read back. -/
theorem readTokens_command {c : Command} (hc : c.WellFormed) {tail : List Char}
    (htail : Ends tail c.first.blocking) :
    readTokens none (.ofArguments []) (tokens (c.render.toList ++ tail)) = .ok c := by
  obtain ⟨first, rest⟩ := c
  have hfirst : first.WellFormed := hc.first
  cases rest with
  | nil =>
    have hrender : render ⟨first, []⟩ = first.render := by simp [Command.render, stages]
    rw [hrender, readTokens_render _ hfirst htail.1]
    exact htail.2 none { first with blocking := true } hfirst.arguments_ne_nil
  | cons second more =>
    obtain rfl : more = [] := by
      have hlen := hc.length_rest
      simp only [List.length_cons] at hlen
      exact List.length_eq_zero_iff.1 (by omega)
    have hsecond : second.WellFormed := hc.rest second List.mem_cons_self
    have hrender : (render ⟨first, [second]⟩).toList =
        first.render.toList ++ ' ' :: '|' :: ' ' :: second.render.toList := by
      simp [Command.render, stages]
    have hbar : EndsWord (' ' :: '|' :: ' ' :: (second.render.toList ++ tail)) :=
      endsWord_cons (by decide) _
    rw [hrender, List.append_assoc, List.cons_append, List.cons_append, List.cons_append,
      readTokens_render _ hfirst hbar, tokens_separator rfl, tokens_operator rfl,
      tokens_separator rfl, readTokens_bar, if_neg hfirst.arguments_ne_nil]
    show readTokens (some { first with blocking := true }) _ _ = _
    rw [readTokens_render _ hsecond htail.1]
    have hend := htail.2 (some { first with blocking := true }) { second with blocking := true }
      hsecond.arguments_ne_nil
    have hblocking : second.blocking = first.blocking := hc.blocking second List.mem_cons_self
    rw [hend]
    show Except.ok (⟨first, [{ second with blocking := first.blocking }]⟩ : Command) = _
    rw [← hblocking]

theorem ofTokens_command {c : Command} (hc : c.WellFormed) {tail : List Char}
    (htail : Ends tail c.first.blocking) :
    ofTokens (tokens (c.render.toList ++ tail)) = .ok (some c) := by
  have hread := readTokens_command hc htail
  rw [ofTokens, if_neg, hread]
  · rfl
  · intro hnil
    rw [hnil] at hread
    cases hread

end Grammar

open Grammar

/-! ## Lines and commands -/

theorem parse_eq_refuse (line : String) :
    parse line = Parser.refuse (ofTokens (tokens line.toList)) :=
  Parser.read_eq line.toList

theorem parse_eq_ok_iff {line : String} {result : Option Command} :
    parse line = .ok result ↔ ofTokens (tokens line.toList) = .ok result := by
  rw [parse_eq_refuse]
  cases ofTokens (tokens line.toList) with
  | error e => exact iff_of_false nofun nofun
  | ok result => constructor <;> (intro h; cases h; rfl)

/-- A line that holds the command. -/
def toLine (c : Command) : String := if c.first.blocking then c.render else c.render ++ " &"

theorem parse_toLine {c : Command} (hc : c.WellFormed) : parse c.toLine = .ok (some c) := by
  rw [parse_eq_ok_iff, toLine]
  split
  · next hblocking =>
    have htail : Ends [] c.first.blocking := by
      rw [hblocking]
      exact ends_nil
    have hread := ofTokens_command hc htail
    rwa [List.append_nil] at hread
  · next hblocking =>
    have htail : Ends [' ', '&'] c.first.blocking := by
      rw [Bool.of_not_eq_true hblocking]
      exact ends_ampersand
    rw [String.toList_append]
    exact ofTokens_command hc htail

/-- The commands that lines hold are the well-formed ones. A well-formed command is what a line
holds on which it is rendered, with an ampersand behind it if it is in the background; so
commands of the same mode that are rendered alike are equal. -/
theorem parse_render :
    (∀ (line : String) (c : Command), parse line = .ok (some c) → c.WellFormed) ∧
    (∀ c : Command, c.WellFormed → c.first.blocking = true → parse c.render = .ok (some c)) ∧
    (∀ c : Command, c.WellFormed → c.first.blocking = false →
      parse (c.render ++ " &") = .ok (some c)) ∧
    (∀ c : Command, (∃ line, parse line = .ok (some c)) ↔ c.WellFormed) ∧
    (∀ c d : Command, c.WellFormed → d.WellFormed → c.first.blocking = d.first.blocking →
      c.render = d.render → c = d) := by
  have himage : ∀ (line : String) (c : Command), parse line = .ok (some c) → c.WellFormed :=
    fun line c h => wellFormed_of_ofTokens (parse_eq_ok_iff.1 h)
  refine ⟨himage, fun c hc hmode => ?_, fun c hc hmode => ?_, fun c => ⟨?_, ?_⟩, ?_⟩
  · have hread := parse_toLine hc
    rwa [toLine, if_pos hmode] at hread
  · have hread := parse_toLine hc
    rwa [toLine, if_neg (by simp [hmode])] at hread
  · intro h
    obtain ⟨line, hline⟩ := h
    exact himage line c hline
  · exact fun hc => ⟨c.toLine, parse_toLine hc⟩
  · intro c d hc hd hmode hrender
    have hline : c.toLine = d.toLine := by rw [toLine, toLine, hmode, hrender]
    have hcd := (parse_toLine hc).symm.trans (hline ▸ parse_toLine hd)
    cases hcd
    rfl

/-- A pipeline with redirections, in either mode, and the lines that hold it. -/
theorem parse_render_pipeline :
    let c (blocking : Bool) : Command :=
      ⟨⟨["cat", "-n"], some "in", none, blocking⟩, [⟨["wc"], none, some "ö", blocking⟩]⟩
    (c true).WellFormed ∧ (c false).WellFormed ∧ (c false).render = "cat -n < in | wc > ö" ∧
      parse "cat -n < in | wc > ö" = .ok (some (c true)) ∧
      parse "cat -n < in | wc > ö &" = .ok (some (c false)) := by
  intro c
  have hc : ∀ blocking, (c blocking).WellFormed := by
    intro blocking
    cases blocking <;> decide
  have htrue : (c true).render = "cat -n < in | wc > ö" := by decide
  have hfalse : (c false).render = "cat -n < in | wc > ö" := by decide
  have hforeground := parse_render.2.1 (c true) (hc true) rfl
  have hbackground := parse_render.2.2.1 (c false) (hc false) rfl
  refine ⟨parse_render.1 _ _ hforeground, parse_render.1 _ _ hbackground, hfalse, ?_, ?_⟩
  · rw [← htrue]
    exact hforeground
  · rw [hfalse] at hbackground
    exact hbackground

end Command

end JobShell
