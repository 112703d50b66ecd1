import JobShell.Command
import JobShell.Error

/-!
# The grammar of a command line

A line is first cut into tokens, without regard to what they mean: separators vanish, each
operator is a token by itself, and every maximal run of other characters is a word. The tokens are
then read from left to right, where the first thing that is wrong decides about the error.

`tokens` and `ofTokens` say what a line means without bytes or positions. The lemmas below them
say where one token ends and the next one begins.
-/

namespace JobShell.Command.Grammar

/-! ## Tokens -/

/-- The characters that separate words. -/
def isSeparator (c : Char) : Bool := c = ' ' || c = '\t' || c = '\n' || c = '\r'

/-- The smallest parts of a command line that mean something. -/
inductive Token where
  /-- Standard input comes from the file behind it. -/
  | less
  /-- Standard output goes to the file behind it. -/
  | greater
  | bar
  | ampersand
  /-- A word, which has a first character. -/
  | word (first : Char) (others : List Char)
  deriving DecidableEq, Repr

/-- The operator that a character stands for. -/
def operator? : Char → Option Token
  | '<' => some .less
  | '>' => some .greater
  | '|' => some .bar
  | '&' => some .ampersand
  | _ => none

/-- The characters that words are made of. -/
def isWordChar (c : Char) : Bool := !isSeparator c && (operator? c).isNone

/-- The characters that belong to no word. -/
def reserved : List Char := [' ', '\t', '\n', '\r', '<', '>', '|', '&']

/-- The first character of a token. -/
def Token.first : Token → Char
  | less => '<'
  | greater => '>'
  | bar => '|'
  | ampersand => '&'
  | word first _ => first

theorem length_dropWhile_le (p : Char → Bool) (cs : List Char) :
    (cs.dropWhile p).length ≤ cs.length :=
  (List.dropWhile_sublist p).length_le

/-- The tokens of a line. -/
def tokens : List Char → List Token
  | [] => []
  | c :: cs =>
    if isSeparator c then
      tokens cs
    else
      match operator? c with
      | some operator => operator :: tokens cs
      | none => .word c (cs.takeWhile isWordChar) :: tokens (cs.dropWhile isWordChar)
termination_by cs => cs.length
decreasing_by
  all_goals have := length_dropWhile_le isWordChar cs
  all_goals simp only [List.length_cons]; omega

/-! ## The command that tokens stand for -/

/-- The command of the stages read, where `before` is the stage in front of the last bar, if there
is a bar. All stages are waited for, or none is. -/
def assemble (before : Option Stage) (last : Stage) (blocking : Bool) : Command :=
  let last := { last with blocking }
  match before with
  | none => ⟨last, []⟩
  | some first => ⟨{ first with blocking }, [last]⟩

/-- Reads tokens from left to right. A stage in front of a bar has been read if there is one in
`before`, and `stage` is what has been read of the stage behind it. -/
def readTokens (before : Option Stage) (stage : Stage) : List Token → Except ParseError Command
  | .word c cs :: rest =>
    readTokens before { stage with arguments := stage.arguments ++ [String.ofList (c :: cs)] } rest
  | .less :: .word c cs :: rest =>
    readTokens before { stage with input := some (String.ofList (c :: cs)) } rest
  | .greater :: .word c cs :: rest =>
    readTokens before { stage with output := some (String.ofList (c :: cs)) } rest
  | .less :: _ => .error .emptyRedirect
  | .greater :: _ => .error .emptyRedirect
  | .bar :: rest =>
    if stage.arguments = [] then
      .error .emptyCommand
    else
      match before with
      | none => readTokens (some stage) (.ofArguments []) rest
      | some _ => .error .pipelineTooLong
  | .ampersand :: rest =>
    if stage.arguments = [] then
      .error .emptyCommand
    else
      match rest with
      | [] => .ok (assemble before stage false)
      | next :: _ => .error (.trailingAfterBackground next.first)
  | [] =>
    if stage.arguments = [] then .error .emptyCommand else .ok (assemble before stage true)

/-- The command that the tokens of a line stand for, or nothing if there are no tokens. -/
def ofTokens (ts : List Token) : Except ParseError (Option Command) :=
  if ts = [] then .ok none else (readTokens none (.ofArguments []) ts).map some

/-! ## Where tokens begin and end -/

@[simp] theorem tokens_nil : tokens [] = [] := by rw [tokens]

theorem tokens_separator {c : Char} (hc : isSeparator c = true) (cs : List Char) :
    tokens (c :: cs) = tokens cs := by
  rw [tokens, if_pos hc]

theorem not_isSeparator_of_operator? {c : Char} {t : Token} (h : operator? c = some t) :
    isSeparator c = false := by
  unfold operator? at h
  split at h <;> first | rfl | cases h

theorem tokens_operator {c : Char} {t : Token} (h : operator? c = some t) (cs : List Char) :
    tokens (c :: cs) = t :: tokens cs := by
  rw [tokens, if_neg (by simp [not_isSeparator_of_operator? h]), h]

theorem tokens_wordChar {c : Char} (hc : isWordChar c = true) (cs : List Char) :
    tokens (c :: cs) =
      .word c (cs.takeWhile isWordChar) :: tokens (cs.dropWhile isWordChar) := by
  simp only [isWordChar, Bool.and_eq_true, Bool.not_eq_true', Option.isNone_iff_eq_none] at hc
  rw [tokens, if_neg (by simp [hc.1]), hc.2]

theorem isWordChar_eq_false_iff (c : Char) : isWordChar c = false ↔ c ∈ reserved := by
  unfold isWordChar operator?
  split
  · decide
  · decide
  · decide
  · decide
  · simp only [isSeparator, reserved, Option.isNone_none, Bool.and_true, Bool.not_eq_false',
      List.mem_cons, Bool.or_eq_true, decide_eq_true_eq, List.not_mem_nil, or_false, or_assoc]
    grind

/-- A character separates words, is an operator, or belongs to a word. -/
theorem isWordChar_or (c : Char) :
    isSeparator c = true ∨ (∃ t, operator? c = some t) ∨ isWordChar c = true := by
  by_cases hs : isSeparator c = true
  · exact .inl hs
  · cases ho : operator? c with
    | some t => exact .inr (.inl ⟨t, rfl⟩)
    | none => exact .inr (.inr (by simp [isWordChar, hs, ho]))

/-- Separators in front of a line do not matter. -/
theorem tokens_dropWhile (cs : List Char) : tokens (cs.dropWhile isSeparator) = tokens cs := by
  induction cs with
  | nil => rfl
  | cons c cs ih =>
    by_cases hc : isSeparator c = true
    · rw [List.dropWhile_cons_of_pos hc, ih, tokens_separator hc]
    · rw [List.dropWhile_cons_of_neg hc]

/-- What comes first on a line, separators apart: nothing, an operator, or a word. -/
theorem tokens_cases (cs : List Char) :
    (cs.dropWhile isSeparator = [] ∧ tokens cs = []) ∨
    (∃ c rest t, cs.dropWhile isSeparator = c :: rest ∧ operator? c = some t ∧
      tokens cs = t :: tokens rest) ∨
    (∃ c rest, cs.dropWhile isSeparator = c :: rest ∧ isWordChar c = true ∧
      tokens cs = .word c (rest.takeWhile isWordChar) :: tokens (rest.dropWhile isWordChar)) := by
  rw [← tokens_dropWhile]
  cases hcs : cs.dropWhile isSeparator with
  | nil => exact .inl ⟨rfl, tokens_nil⟩
  | cons c rest =>
    have hc : ¬isSeparator c = true := by
      have hhead := List.head?_dropWhile_not isSeparator cs
      rw [hcs] at hhead
      simpa using hhead
    rcases isWordChar_or c with hs | ⟨t, ht⟩ | hw
    · exact absurd hs hc
    · exact .inr (.inl ⟨c, rest, t, rfl, ht, tokens_operator ht rest⟩)
    · exact .inr (.inr ⟨c, rest, rfl, hw, tokens_wordChar hw rest⟩)

theorem first_of_operator? {c : Char} {t : Token} (h : operator? c = some t) : t.first = c := by
  unfold operator? at h
  split at h <;> cases h <;> rfl

theorem operator?_ne_word (c d : Char) (ds : List Char) : operator? c ≠ some (.word d ds) := by
  unfold operator?
  split <;> simp

/-- The first token begins with the first character that is no separator. -/
theorem head?_tokens (cs : List Char) :
    (tokens cs).head?.map Token.first = (cs.dropWhile isSeparator).head? := by
  rcases tokens_cases cs with ⟨hcs, hts⟩ | ⟨c, rest, t, hcs, ht, hts⟩ | ⟨c, rest, hcs, -, hts⟩
  · rw [hcs, hts]
    rfl
  · rw [hcs, hts, List.head?_cons, Option.map_some, first_of_operator? ht, List.head?_cons]
  · rw [hcs, hts]
    rfl

theorem tokens_eq_nil_iff (cs : List Char) : tokens cs = [] ↔ cs.dropWhile isSeparator = [] := by
  rw [← List.head?_eq_none_iff, ← List.head?_eq_none_iff, ← head?_tokens, Option.map_eq_none_iff]

/-! ## Reading one token -/

theorem readTokens_nil (before : Option Stage) (stage : Stage) :
    readTokens before stage [] =
      if stage.arguments = [] then .error .emptyCommand else .ok (assemble before stage true) := by
  rw [readTokens]

theorem readTokens_bar (before : Option Stage) (stage : Stage) (rest : List Token) :
    readTokens before stage (.bar :: rest) =
      if stage.arguments = [] then
        .error .emptyCommand
      else
        match before with
        | none => readTokens (some stage) (.ofArguments []) rest
        | some _ => .error .pipelineTooLong := by
  rw [readTokens.eq_def]

theorem readTokens_ampersand (before : Option Stage) (stage : Stage) (rest : List Token) :
    readTokens before stage (.ampersand :: rest) =
      if stage.arguments = [] then
        .error .emptyCommand
      else
        match rest with
        | [] => .ok (assemble before stage false)
        | next :: _ => .error (.trailingAfterBackground next.first) := by
  rw [readTokens.eq_def]

theorem readTokens_less_error (before : Option Stage) (stage : Stage) {ts : List Token}
    (h : ∀ c cs rest, ts ≠ .word c cs :: rest) :
    readTokens before stage (.less :: ts) = .error .emptyRedirect := by
  rw [readTokens]
  exact h

theorem readTokens_greater_error (before : Option Stage) (stage : Stage) {ts : List Token}
    (h : ∀ c cs rest, ts ≠ .word c cs :: rest) :
    readTokens before stage (.greater :: ts) = .error .emptyRedirect := by
  rw [readTokens]
  exact h

end JobShell.Command.Grammar
