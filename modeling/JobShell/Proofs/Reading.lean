import JobShell.Proofs.Cursor

/-!
# Reading agrees with the grammar

The reader of a command line, which moves a cursor over bytes, finds on every line what the
grammar says of its tokens: the same command, or the same error.
-/

namespace JobShell.Command.Parser

open Grammar

/-! ## One stage -/

/-- The characters that end a stage: none are left, or a bar or an ampersand comes first. -/
def StopsAt (rest : List Char) : Prop :=
  rest = [] ∨ rest.head? = some '|' ∨ rest.head? = some '&'

/-- What reading parts of a stage from the cursor on has to come to, when `stage` has been read and
`behind` is behind the cursor. On success the tokens that are left say the same, as seen from the
larger stage, as all tokens did before. -/
def PartsRead (src : Source) (stage : Stage) (behind : List Char) :
    Except Fault (Stage × Nat) → Prop
  | .ok (stage', j) =>
    ∃ rest, src.At j rest ∧ StopsAt rest ∧ stage'.blocking = stage.blocking ∧
      ∀ before, readTokens before stage (tokens behind) = readTokens before stage' (tokens rest)
  | .error e =>
    ∃ cause, e = .refused cause ∧
      ∀ before, readTokens before stage (tokens behind) = .error cause

/-- A redirection takes the next token as its target, which has to be a word. -/
theorem Source.At.readTarget {src : Source} {i : Nat} {c : Char} {behind : List Char}
    (hc : c.toNat < 0x80) (h : src.At i (c :: behind)) :
    (∃ d ds rest j, tokens behind = .word d ds :: tokens rest ∧
      Parser.readTarget src i = .ok (String.ofList (d :: ds), j) ∧ src.At j rest) ∨
    ((∀ d ds ts, tokens behind ≠ .word d ds :: ts) ∧
      Parser.readTarget src i = .error (.refused .emptyRedirect)) := by
  obtain ⟨j, hword, hj⟩ := ((h.succ hc).skip mirrors_isSpace).readWord
  rw [Parser.readTarget, hword]
  rcases tokens_cases behind with ⟨hcs, hts⟩ | ⟨d, rest, t, hcs, ht, hts⟩ | ⟨d, rest, hcs, hd, hts⟩
  · right
    rw [hts, hcs]
    exact ⟨by simp, rfl⟩
  · right
    have hd : isWordChar d = false := by simp [isWordChar, ht]
    rw [hts, hcs, List.takeWhile_cons_of_neg (by simp [hd])]
    refine ⟨?_, rfl⟩
    intro d' ds ts heq
    rw [List.cons.injEq] at heq
    exact operator?_ne_word d d' ds (heq.1 ▸ ht)
  · left
    rw [hcs, List.takeWhile_cons_of_pos hd]
    rw [hcs, List.dropWhile_cons_of_pos hd] at hj
    refine ⟨d, _, _, j, hts, ?_, hj⟩
    simp

/-- Behind separators stands the operator whose byte is found there. -/
theorem Source.At.operator {src : Source} {i : Nat} {behind : List Char} (h : src.At i behind)
    {d : Char} {t : Token} (hd : d.toNat < 0x80) (ht : operator? d = some t)
    (hb : src.bytes[Parser.skip isSpace src.bytes i]? = some d.toNat.toUInt8) :
    ∃ rest, src.At (Parser.skip isSpace src.bytes i) (d :: rest) ∧ tokens behind = t :: tokens rest := by
  have hat := h.skip mirrors_isSpace
  have hhead := (hat.getElem?_eq_iff hd).1 hb
  rw [← tokens_dropWhile]
  cases hrest : behind.dropWhile isSeparator with
  | nil =>
    rw [hrest] at hhead
    cases hhead
  | cons c rest =>
    rw [hrest] at hhead hat
    obtain rfl : c = d := Option.some_inj.1 hhead
    exact ⟨rest, hat, tokens_operator ht rest⟩

/-- Behind separators stands a word if no operator is found there, nor the end. -/
theorem Source.At.word {src : Source} {i : Nat} {behind : List Char} (h : src.At i behind)
    {b : UInt8} (hb : src.bytes[Parser.skip isSpace src.bytes i]? = some b)
    (hoperator : isOperator b = false) :
    ∃ c cs rest j, tokens behind = .word c cs :: tokens rest ∧ src.At j rest ∧
      Parser.readWord src (Parser.skip isSpace src.bytes i) = .ok (String.ofList (c :: cs), j) := by
  have hat := h.skip mirrors_isSpace
  obtain ⟨j, hword, hj⟩ := hat.readWord
  rcases tokens_cases behind with ⟨hcs, -⟩ | ⟨c, rest, t, hcs, ht, -⟩ | ⟨c, rest, hcs, hc, hts⟩
  · rw [hat.getElem?_eq_none_iff.2 hcs] at hb
    cases hb
  · -- an operator would have been recognised by its byte
    have hbyte : ∀ d : Char, d.toNat < 0x80 → c = d → b = d.toNat.toUInt8 := by
      intro d hd h
      subst h
      have hc := (hat.getElem?_eq_iff hd).2 (by rw [hcs]; rfl)
      exact Option.some_inj.1 (hb.symm.trans hc)
    unfold operator? at ht
    split at ht
    · rw [hbyte '<' (by decide) rfl] at hoperator
      cases hoperator
    · rw [hbyte '>' (by decide) rfl] at hoperator
      cases hoperator
    · rw [hbyte '|' (by decide) rfl] at hoperator
      cases hoperator
    · rw [hbyte '&' (by decide) rfl] at hoperator
      cases hoperator
    · cases ht
  · rw [hcs, List.takeWhile_cons_of_pos hc] at hword
    rw [hcs, List.dropWhile_cons_of_pos hc] at hj
    exact ⟨c, _, _, j, hts, hj, hword⟩

/-- Parts that have been read already may be left out of what is said about the others. -/
theorem PartsRead.of_step {src : Source} {stage stage' : Stage} {behind rest : List Char}
    {result : Except Fault (Stage × Nat)} (h : PartsRead src stage' rest result)
    (hblocking : stage'.blocking = stage.blocking)
    (htokens : ∀ before,
      readTokens before stage (tokens behind) = readTokens before stage' (tokens rest)) :
    PartsRead src stage behind result := by
  cases result with
  | ok result =>
    obtain ⟨last, hat, hstops, hb, hts⟩ := h
    exact ⟨last, hat, hstops, hb.trans hblocking, fun before => (htokens before).trans (hts before)⟩
  | error e =>
    obtain ⟨cause, he, hts⟩ := h
    exact ⟨cause, he, fun before => (htokens before).trans (hts before)⟩

/-- Reading the parts of a stage is reading its tokens. -/
theorem partsRead_readParts (src : Source) (stage : Stage) (i : Nat) (behind : List Char)
    (h : src.At i behind) : PartsRead src stage behind (readParts src stage i) := by
  fun_induction readParts src stage i generalizing behind with
  | case1 stage i k hk =>
    have hat := h.skip mirrors_isSpace
    have hnil := hat.getElem?_eq_none_iff.1 hk
    refine ⟨_, hat, .inl hnil, rfl, fun before => ?_⟩
    rw [tokens_dropWhile]
  | case2 stage i k path j hr _ hk _ ih =>
    obtain ⟨rest, hat, hts⟩ := h.operator (d := '<') (by decide) rfl hk
    rcases hat.readTarget (by decide) with ⟨d, ds, rest', j', hword, hok, hj⟩ | ⟨-, herror⟩
    · cases hr.symm.trans hok
      refine (ih rest' hj).of_step rfl fun before => ?_
      rw [hts, hword, readTokens]
    · cases hr.symm.trans herror
  | case3 stage i k e hr hk _ =>
    obtain ⟨rest, hat, hts⟩ := h.operator (d := '<') (by decide) rfl hk
    rcases hat.readTarget (by decide) with ⟨d, ds, rest', j', hword, hok, hj⟩ | ⟨hne, herror⟩
    · cases hr.symm.trans hok
    · cases hr.symm.trans herror
      refine ⟨_, rfl, fun before => ?_⟩
      rw [hts, readTokens_less_error before stage hne]
  | case4 stage i k path j hr _ hk _ _ ih =>
    obtain ⟨rest, hat, hts⟩ := h.operator (d := '>') (by decide) rfl hk
    rcases hat.readTarget (by decide) with ⟨d, ds, rest', j', hword, hok, hj⟩ | ⟨-, herror⟩
    · cases hr.symm.trans hok
      refine (ih rest' hj).of_step rfl fun before => ?_
      rw [hts, hword, readTokens]
    · cases hr.symm.trans herror
  | case5 stage i k e hr hk _ _ =>
    obtain ⟨rest, hat, hts⟩ := h.operator (d := '>') (by decide) rfl hk
    rcases hat.readTarget (by decide) with ⟨d, ds, rest', j', hword, hok, hj⟩ | ⟨hne, herror⟩
    · cases hr.symm.trans hok
    · cases hr.symm.trans herror
      refine ⟨_, rfl, fun before => ?_⟩
      rw [hts, readTokens_greater_error before stage hne]
  | case6 stage i k b hk _ _ _ hb =>
    have hat := h.skip mirrors_isSpace
    refine ⟨_, hat, .inr ?_, rfl, fun before => ?_⟩
    · rcases hb with rfl | rfl
      · exact .inl ((hat.getElem?_eq_iff (d := '|') (by decide)).1 hk)
      · exact .inr ((hat.getElem?_eq_iff (d := '&') (by decide)).1 hk)
    · rw [tokens_dropWhile]
  | case7 stage i k b hk _ hin hout hbar path j hr _ ih =>
    have hoperator : isOperator b = false := by
      rw [not_or] at hbar
      simp [isOperator, hin, hout, hbar.1, hbar.2]
    obtain ⟨c, cs, rest, j', hts, hj, hword⟩ := h.word hk hoperator
    cases hr.symm.trans hword
    refine (ih rest hj).of_step rfl fun before => ?_
    rw [hts, readTokens]
  | case8 stage i k b hk _ hin hout hbar e hr =>
    have hoperator : isOperator b = false := by
      rw [not_or] at hbar
      simp [isOperator, hin, hout, hbar.1, hbar.2]
    obtain ⟨c, cs, rest, j', hts, hj, hword⟩ := h.word hk hoperator
    cases hr.symm.trans hword

/-- What reading a whole stage has to come to: as `PartsRead`, but the stage has an argument. -/
def StageRead (src : Source) (behind : List Char) : Except Fault (Stage × Nat) → Prop
  | .ok (stage, j) =>
    ∃ rest, src.At j rest ∧ StopsAt rest ∧ stage.blocking = true ∧ stage.arguments ≠ [] ∧
      ∀ before, readTokens before blankStage (tokens behind) = readTokens before stage (tokens rest)
  | .error e =>
    ∃ cause, e = .refused cause ∧
      ∀ before, readTokens before blankStage (tokens behind) = .error cause

/-- Where a stage stops, there have to be arguments in front. -/
theorem readTokens_emptyCommand (before : Option Stage) {stage : Stage} {rest : List Char}
    (hstops : StopsAt rest) (hargs : stage.arguments = []) :
    readTokens before stage (tokens rest) = .error .emptyCommand := by
  rcases hstops with rfl | hbar | hamp
  · rw [tokens_nil, readTokens_nil, if_pos hargs]
  · obtain ⟨rest', rfl⟩ := List.head?_eq_some_iff.1 hbar
    rw [tokens_operator rfl, readTokens_bar, if_pos hargs]
  · obtain ⟨rest', rfl⟩ := List.head?_eq_some_iff.1 hamp
    rw [tokens_operator rfl, readTokens_ampersand, if_pos hargs]

theorem stageRead_readStage {src : Source} {i : Nat} {behind : List Char} (h : src.At i behind) :
    StageRead src behind (readStage src i) := by
  have hparts := partsRead_readParts src blankStage i behind h
  rw [readStage]
  cases hr : readParts src blankStage i with
  | error e =>
    rw [hr] at hparts
    exact hparts
  | ok result =>
    obtain ⟨stage, j⟩ := result
    rw [hr] at hparts
    obtain ⟨rest, hat, hstops, hblocking, hts⟩ := hparts
    by_cases hargs : stage.arguments = []
    · simp only [hargs, List.isEmpty_nil, if_true]
      exact ⟨_, rfl, fun before => (hts before).trans (readTokens_emptyCommand before hstops hargs)⟩
    · simp only [List.isEmpty_iff, hargs, if_false]
      exact ⟨rest, hat, hstops, hblocking, hargs, hts⟩

/-! ## The whole line -/

/-- A result of the grammar as one of the reader. -/
def refuse {α : Type} (result : Except ParseError α) : Except Fault α :=
  result.mapError .refused

/-- Reading the end of a command is reading what is left of its tokens. -/
theorem readEnd_eq {src : Source} {i : Nat} {behind : List Char} (h : src.At i behind)
    (hstops : StopsAt behind) (hbar : behind.head? ≠ some '|') (before : Option Stage)
    {stage : Stage} (hargs : stage.arguments ≠ []) :
    readEnd src (assemble before stage true) i =
      refuse (readTokens before stage (tokens behind)) := by
  rcases hstops with rfl | hbar' | hamp
  · have hnone := h.getElem?_eq_none_iff.2 rfl
    rw [readEnd, hnone, if_neg (by simp), tokens_nil, readTokens_nil, if_neg hargs]
    rfl
  · exact absurd hbar' hbar
  · obtain ⟨rest, rfl⟩ := List.head?_eq_some_iff.1 hamp
    have hbyte : src.bytes[i]? = some 0x26 := (h.getElem?_eq_iff (d := '&') (by decide)).2 rfl
    have hat := (h.succ (by decide)).skip mirrors_isSpace
    have hslice : Text.slice? src.chars (skip isSpace src.bytes (i + 1)) src.bytes.length =
        some (rest.dropWhile isSeparator) := by
      rw [hat.length_bytes]
      apply Source.At.slice?_eq
      rw [List.append_nil]
      exact hat
    rw [readEnd, if_pos hbyte, hslice, tokens_operator rfl, readTokens_ampersand, if_neg hargs]
    have hfirst := head?_tokens rest
    cases hts : tokens rest with
    | nil =>
      rw [(tokens_eq_nil_iff rest).1 hts]
      cases before <;> rfl
    | cons t ts =>
      rw [hts, List.head?_cons, Option.map_some] at hfirst
      obtain ⟨cs, hcs⟩ := List.head?_eq_some_iff.1 hfirst.symm
      rw [hcs]
      rfl

theorem readSecond_eq {src : Source} {i : Nat} {behind : List Char} (h : src.At i behind)
    {first : Stage} (hfirst : first.blocking = true) :
    readSecond src first i = refuse (readTokens (some first) blankStage (tokens behind)) := by
  have hstage := stageRead_readStage h
  rw [readSecond]
  cases hr : readStage src i with
  | error e =>
    rw [hr] at hstage
    obtain ⟨cause, rfl, hts⟩ := hstage
    rw [hts]
    rfl
  | ok result =>
    obtain ⟨second, j⟩ := result
    rw [hr] at hstage
    obtain ⟨rest, hat, hstops, hsecond, hargs, hts⟩ := hstage
    have hbyte : src.bytes[j]? = some 0x7C ↔ rest.head? = some '|' :=
      hat.getElem?_eq_iff (d := '|') (by decide)
    rw [hts]
    show (if src.bytes[j]? = some 0x7C then _ else _) = _
    by_cases hbar : rest.head? = some '|'
    · rw [if_pos (hbyte.2 hbar)]
      obtain ⟨rest', rfl⟩ := List.head?_eq_some_iff.1 hbar
      rw [tokens_operator rfl, readTokens_bar, if_neg hargs]
      rfl
    · rw [if_neg fun hb => hbar (hbyte.1 hb), ← readEnd_eq hat hstops hbar (some first) hargs]
      congr 1
      obtain ⟨arguments, input, output, blocking⟩ := first
      obtain ⟨arguments', input', output', blocking'⟩ := second
      cases hfirst
      cases hsecond
      rfl

theorem readCommand_eq {src : Source} {i : Nat} {behind : List Char} (h : src.At i behind) :
    readCommand src i = refuse (readTokens none blankStage (tokens behind)) := by
  have hstage := stageRead_readStage h
  rw [readCommand]
  cases hr : readStage src i with
  | error e =>
    rw [hr] at hstage
    obtain ⟨cause, rfl, hts⟩ := hstage
    rw [hts]
    rfl
  | ok result =>
    obtain ⟨first, j⟩ := result
    rw [hr] at hstage
    obtain ⟨rest, hat, hstops, hfirst, hargs, hts⟩ := hstage
    have hbyte : src.bytes[j]? = some 0x7C ↔ rest.head? = some '|' :=
      hat.getElem?_eq_iff (d := '|') (by decide)
    rw [hts]
    show (if src.bytes[j]? = some 0x7C then _ else _) = _
    by_cases hbar : rest.head? = some '|'
    · rw [if_pos (hbyte.2 hbar)]
      obtain ⟨rest', rfl⟩ := List.head?_eq_some_iff.1 hbar
      rw [tokens_operator rfl, readTokens_bar, if_neg hargs]
      exact readSecond_eq (hat.succ (by decide)) hfirst
    · rw [if_neg fun hb => hbar (hbyte.1 hb), ← readEnd_eq hat hstops hbar none hargs]
      congr 1
      obtain ⟨arguments, input, output, blocking⟩ := first
      cases hfirst
      rfl

/-- The reader finds on a line what the grammar says of its tokens. -/
theorem read_eq (cs : List Char) : read ⟨cs, Text.utf8 cs⟩ = refuse (ofTokens (tokens cs)) := by
  have hat := (Source.At.start cs).skip mirrors_isSpace
  have hlen := hat.length_bytes
  rw [read, ofTokens]
  by_cases hnil : cs.dropWhile isSeparator = []
  · rw [hnil, Text.utf8Length_nil] at hlen
    rw [if_pos ((tokens_eq_nil_iff cs).2 hnil), if_neg (by omega)]
    rfl
  · obtain ⟨c, rest, hcs⟩ := List.exists_cons_of_ne_nil hnil
    have hpos := c.utf8Size_pos
    rw [hcs, Text.utf8Length_cons] at hlen
    rw [if_neg (mt (tokens_eq_nil_iff cs).1 hnil), if_pos (by omega), readCommand_eq hat,
      tokens_dropWhile, blankStage]
    cases readTokens none (.ofArguments []) (tokens cs) <;> rfl

end Parser

/-- A line is read as the grammar says: its tokens, from left to right, make up the command, or
the first thing that is wrong with them is the error. -/
theorem parse_eq_ofTokens (line : String) :
    parse line = (Grammar.ofTokens (Grammar.tokens line.toList)).mapError .refused :=
  Parser.read_eq line.toList

end JobShell.Command
