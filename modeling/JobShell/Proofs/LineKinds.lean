import JobShell.Proofs.Handling
import JobShell.Proofs.Numerals

/-!
# Kinds of lines

Before a line is read as a command, two questions are asked of it: whether anything stands there,
and whether it stands for an earlier line. Both look at the line in their own way. A reference by
number ends behind its last digit, and what is typed behind it is dropped without a word
(`resolve_by_beginning`). A line of white space is ignored, and white space is more than what
separates words, so a line is ignored on which the reader would find words (`ignored_iff_unread`).
-/

namespace JobShell

/-! ## References -/

namespace History

/-- What begins with an exclamation mark and the digits of a number; `rest` stands behind the last
digit. -/
structure Cites (cs digits : List Char) (n : Nat) (rest : List Char) : Prop where
  eq_append : cs = '!' :: (digits ++ rest)
  numeral : Numeral digits n
  whole : ∀ c ∈ rest.head?, ¬ ('0' ≤ c ∧ c ≤ '9')

theorem reference?_eq_last_iff {cs : List Char} : reference? cs = some .last ↔ cs = ['!', '!'] := by
  constructor
  · intro h
    unfold reference? at h
    split at h
    next => rfl
    next rest _ =>
      obtain ⟨n, -, hn⟩ := Option.map_eq_some_iff.1 h
      cases hn
    next => cases h
  · intro h
    rw [h, reference?]

/-- A line is a reference by number as soon as it begins with one. -/
theorem reference?_eq_number_iff {cs : List Char} {n : Nat} :
    reference? cs = some (.number n) ↔ ∃ digits rest, Cites cs digits n rest := by
  constructor
  · intro h
    unfold reference? at h
    split at h
    next => cases h
    next rest _ =>
      obtain ⟨m, hdigits, hm⟩ := Option.map_eq_some_iff.1 h
      cases hm
      have hwhole : ∀ c ∈ (rest.dropWhile Char.isDigit).head?, ¬ ('0' ≤ c ∧ c ≤ '9') := by
        intro c hc hdigit
        have hhead := List.head?_dropWhile_not Char.isDigit rest
        rw [hc] at hhead
        exact absurd (Pid.isDigit_iff.2 hdigit) (by simpa using hhead)
      refine ⟨rest.takeWhile Char.isDigit, rest.dropWhile Char.isDigit, ?_,
        Pid.digits?_eq_some_iff.1 hdigits, hwhole⟩
      rw [List.takeWhile_append_dropWhile]
    next => cases h
  · intro h
    obtain ⟨digits, rest, hcites⟩ := h
    have hnone : rest.takeWhile Char.isDigit = [] := by
      cases rest with
      | nil => rfl
      | cons c cs =>
        have hc : ¬ c.isDigit = true := fun h => hcites.whole c rfl (Pid.isDigit_iff.1 h)
        exact List.takeWhile_cons_of_neg hc
    have htaken : (digits ++ rest).takeWhile Char.isDigit = digits := by
      rw [List.takeWhile_append_of_pos hcites.numeral.all_isDigit, hnone, List.append_nil]
    rw [hcites.eq_append]
    exact reference?_cons (by rw [htaken, Pid.digits?_eq_some_iff.2 hcites.numeral])

/-- What stands behind the digits does not matter. -/
theorem resolve_of_cites (h : History) {line : String} {digits rest : List Char} {n : Nat}
    (hcites : Cites line.toList digits n rest) :
    h.resolve line = (h.get? n).elim (.error .invalidHistoryReference) .ok := by
  rw [resolve_eq, reference?_eq_number_iff.2 ⟨digits, rest, hcites⟩]
  rfl

/-- A line stands for itself exactly if every reference that it can be taken for leads back to the
line. -/
theorem resolve_eq_self_iff (h : History) (line : String) :
    h.resolve line = .ok line ↔
      (line = "!!" → h.last? = some line) ∧
        ∀ digits n rest, Cites line.toList digits n rest → h.get? n = some line := by
  have hbang : line = "!!" ↔ reference? line.toList = some .last := by
    rw [reference?_eq_last_iff, ← String.toList_inj]
    rfl
  have hnumber : ∀ digits n rest, Cites line.toList digits n rest →
      reference? line.toList = some (.number n) :=
    fun digits n rest hcites => reference?_eq_number_iff.2 ⟨digits, rest, hcites⟩
  rw [resolve_eq]
  -- A line is taken for one reference at most, so one of the two conditions is void.
  rcases hreference : reference? line.toList with _ | _ | n <;> rw [hreference] at hbang hnumber
  · refine iff_of_true rfl ⟨fun hline => ?_, fun digits n rest hcites => ?_⟩
    · exact nomatch hbang.1 hline
    · exact nomatch hnumber digits n rest hcites
  · have hlast : h.referent .last = .ok line ↔ h.last? = some line := elim_eq_ok_iff
    refine hlast.trans ⟨fun hkept => ⟨fun _ => hkept, fun digits n rest hcites => ?_⟩,
      fun hkept => hkept.1 (hbang.2 rfl)⟩
    exact nomatch hnumber digits n rest hcites
  · have hget : h.referent (.number n) = .ok line ↔ h.get? n = some line := elim_eq_ok_iff
    obtain ⟨digits, rest, hcites⟩ := reference?_eq_number_iff.1 hreference
    refine hget.trans ⟨fun hkept => ⟨fun hline => ?_, fun digits' n' rest' hcites' => ?_⟩,
      fun hkept => hkept.2 digits n rest hcites⟩
    · exact nomatch hbang.1 hline
    · cases hnumber digits' n' rest' hcites'
      exact hkept

/-- What a line stands for is decided by its beginning. A reference by number may have any text
behind it, which is dropped, so such a line stands for itself only where it has been recorded under
that very number; and the lines that always stand for themselves are those that do not even begin
with a reference by number and are not the reference to the last line. -/
theorem resolve_by_beginning (h : History) (line : String) :
    (h.resolve line = .ok line ↔
      (line = "!!" → h.last? = some line) ∧
        ∀ digits n rest, Cites line.toList digits n rest → h.get? n = some line) ∧
    (∀ digits n rest, Cites line.toList digits n rest →
      h.resolve line = (h.get? n).elim (.error .invalidHistoryReference) .ok) ∧
    ((∀ h' : History, h'.resolve line = .ok line) ↔
      line ≠ "!!" ∧ ∀ digits n rest, ¬ Cites line.toList digits n rest) := by
  refine ⟨h.resolve_eq_self_iff line, fun digits n rest => h.resolve_of_cites, fun hall => ?_,
    fun hplain h' => ?_⟩
  · -- A history without lines has nothing for a reference to lead to.
    have hempty : (empty 0).resolve line = .ok line := hall (empty 0)
    obtain ⟨hlast, hget⟩ := ((empty 0).resolve_eq_self_iff line).1 hempty
    refine ⟨fun hline => absurd (hlast hline) nofun, fun digits n rest hcites => ?_⟩
    have hnone : (empty 0).get? n = none := by simp [get?]
    exact absurd (hget digits n rest hcites) (by simp [hnone])
  · obtain ⟨hline, hcites⟩ := hplain
    exact (h'.resolve_eq_self_iff line).2 ⟨fun h => absurd h hline,
      fun digits n rest h => absurd h (hcites digits n rest)⟩

/-- An exclamation mark, a digit and a letter are more than a reference, but they are taken for
one. -/
theorem resolve_inexact :
    ¬ ∀ (h : History) (line : String), line ≠ "!!" →
      (∀ digits n, Numeral digits n → line.toList ≠ '!' :: digits) →
        h.resolve line = .ok line := by
  intro hall
  have hnot : ∀ digits n, Numeral digits n → "!1x".toList ≠ '!' :: digits := by
    intro digits n hdigits heq
    have hx : 'x' ∈ digits := by
      rw [← (List.cons.inj heq).2]
      decide
    exact absurd (hdigits.digits 'x' hx) (by decide)
  have hline := hall ⟨20, ["echo a"]⟩ "!1x" (by decide) hnot
  exact absurd hline (by decide)

end History

/-! ## Lines on which nothing stands -/

namespace Command

namespace Grammar

/-- Where no operator stands, all tokens are words. -/
theorem exists_word_of_mem_tokens {cs : List Char} (h : ∀ c ∈ cs, operator? c = none) :
    ∀ t ∈ tokens cs, ∃ c ds, t = .word c ds := by
  fun_induction tokens cs with
  | case1 => exact List.forall_mem_nil _
  | case2 c cs hc ih => exact ih (List.forall_mem_cons.1 h).2
  | case3 c cs hc t ht ih =>
    rw [(List.forall_mem_cons.1 h).1] at ht
    cases ht
  | case4 c cs hc ho ih =>
    have hrest := (List.forall_mem_cons.1 h).2
    refine List.forall_mem_cons.2 ⟨⟨_, _, rfl⟩, ih fun d hd => ?_⟩
    exact hrest d ((List.dropWhile_sublist _).subset hd)

/-- Words on their own are arguments. -/
theorem readTokens_words {ts : List Token} (h : ∀ t ∈ ts, ∃ c ds, t = .word c ds)
    (before : Option Stage) (stage : Stage) :
    ∃ arguments : List String, arguments.length = ts.length ∧
      readTokens before stage ts =
        readTokens before { stage with arguments := stage.arguments ++ arguments } [] := by
  induction ts generalizing stage with
  | nil => exact ⟨[], rfl, by rw [List.append_nil]⟩
  | cons t ts ih =>
    obtain ⟨⟨c, ds, rfl⟩, hrest⟩ := List.forall_mem_cons.1 h
    obtain ⟨arguments, hlength, hread⟩ :=
      ih hrest { stage with arguments := stage.arguments ++ [String.ofList (c :: ds)] }
    refine ⟨String.ofList (c :: ds) :: arguments, congrArg Nat.succ hlength, ?_⟩
    rw [readTokens, hread, List.append_assoc]
    rfl

end Grammar

/-- A line without operators is read as a program with its arguments, if anything stands there but
separators. -/
theorem parse_of_no_operator {line : String}
    (hplain : ∀ c ∈ line.toList, Grammar.operator? c = none)
    (hword : ∃ c ∈ line.toList, ¬ Grammar.isSeparator c) :
    ∃ arguments, arguments ≠ [] ∧ parse line = .ok (some (.ofArguments arguments)) := by
  have hwords := Grammar.exists_word_of_mem_tokens hplain
  obtain ⟨arguments, hlength, hread⟩ := Grammar.readTokens_words hwords none (.ofArguments [])
  have htokens : Grammar.tokens line.toList ≠ [] := by
    rw [ne_eq, Grammar.tokens_eq_nil_iff, List.dropWhile_eq_nil_iff]
    intro hall
    obtain ⟨c, hc, hnot⟩ := hword
    exact hnot (hall c hc)
  have hne : arguments ≠ [] := by
    rintro rfl
    exact htokens (List.length_eq_zero_iff.1 hlength.symm)
  have hstage : Grammar.readTokens none (.ofArguments []) (Grammar.tokens line.toList) =
      Grammar.readTokens none (.ofArguments arguments) [] := hread
  refine ⟨arguments, hne, ?_⟩
  rw [parse_eq_ok_iff, Grammar.ofTokens, if_neg htokens, hstage, Grammar.readTokens_nil,
    if_neg (show (Stage.ofArguments arguments).arguments ≠ [] from hne)]
  rfl

/-- White space is no operator. -/
theorem operator?_of_isBlank {c : Char} (h : Text.isBlank c) : Grammar.operator? c = none := by
  unfold Grammar.operator?
  split
  · exact absurd h (by decide)
  · exact absurd h (by decide)
  · exact absurd h (by decide)
  · exact absurd h (by decide)
  · rfl

end Command

namespace Shell

variable {settings : Settings} {s : Session} {raw : String}

/-- A line is ignored: the shell goes on as if it had not been there and says nothing to the system,
and no built-in command is carried out, not even one that has nothing to do. -/
structure Ignored (settings : Settings) (s : Session) (raw : String) : Prop where
  idle : ((processLine settings raw).run s : Program _) = .done (.ok .proceed, s)
  unasked : requested? s raw = none

theorem ignored_of_isBlankText (hblank : Text.isBlankText (withoutLineEnd raw)) :
    Ignored settings s raw := by
  refine ⟨?_, if_pos hblank⟩
  unfold processLine
  dsimp only
  rw [if_pos hblank]
  rfl

/-- A text that is handled without a call to the system and without an error holds nothing, or asks
for a built-in command. -/
theorem Handled.quiet_cases {s' : Session} {text : String} {t : Trace} {r : Except Failure Flow}
    (h : Handled settings s text t r s') (htrace : t = []) (hresult : r = .ok .proceed) :
    Command.parse text = .ok none ∨ builtinOn? text ≠ none := by
  cases h with
  | unreadable => cases hresult
  | empty parsed => exact .inl parsed
  | builtin parsed asked =>
    rw [builtinOn?_of_parse parsed, asked]
    exact .inr (Option.some_ne_none _)
  | unflushed | refused => cases htrace
  | launched | unlaunched => cases htrace

/-- Apart from references, which may fail, only lines of white space are ignored. -/
theorem ignored_iff (hplain : History.reference? (withoutLineEnd raw).toList = none) :
    Ignored settings s raw ↔ Text.isBlankText (withoutLineEnd raw) := by
  refine ⟨fun h => ?_, ignored_of_isBlankText⟩
  by_contra hnot
  have hresolved : s.history.resolve (withoutLineEnd raw) = .ok (withoutLineEnd raw) := by
    rw [History.resolve_eq, hplain]
    rfl
  have hrecorded : recorded? s.history raw = some (withoutLineEnd raw) :=
    recorded?_eq_some_iff.2 ⟨Bool.eq_false_iff.2 hnot, hresolved⟩
  have hruns : Runs (processLine settings raw) s [] (.ok .proceed) s := by
    rw [Runs, h.idle]
    exact .done _
  rw [Runs, run_processLine_of_recorded settings hrecorded] at hruns
  have hunasked : builtinOn? (withoutLineEnd raw) = none := by
    have hrequest := h.unasked
    rwa [requested?, if_neg hnot, hresolved] at hrequest
  rcases (runs_processResolved_cases hruns).quiet_cases rfl rfl with hnone | hasked
  · exact hnot (Command.isBlankText_of_parse hnone)
  · exact hasked hunasked

/-- A line that is no reference is ignored if nothing but white space stands there, and the reader
finds nothing on it if nothing but separators stands there. So the two agree on a line unless it is
made of white space and not of separators alone, and there the reader finds a program with its
arguments. -/
theorem ignored_iff_unread (settings : Settings) (s : Session) (raw : String)
    (hplain : History.reference? (withoutLineEnd raw).toList = none) :
    (Ignored settings s raw ↔ Text.isBlankText (withoutLineEnd raw)) ∧
    (Command.parse (withoutLineEnd raw) = .ok none ↔
      ∀ c ∈ (withoutLineEnd raw).toList, Command.Grammar.isSeparator c) ∧
    ((Ignored settings s raw ↔ Command.parse (withoutLineEnd raw) = .ok none) ↔
      ¬ (Text.isBlankText (withoutLineEnd raw) ∧
        ∃ c ∈ (withoutLineEnd raw).toList, ¬ Command.Grammar.isSeparator c)) ∧
    (Text.isBlankText (withoutLineEnd raw) →
      (∃ c ∈ (withoutLineEnd raw).toList, ¬ Command.Grammar.isSeparator c) →
        ∃ arguments, arguments ≠ [] ∧
          Command.parse (withoutLineEnd raw) = .ok (some (.ofArguments arguments))) := by
  have hignored : Ignored settings s raw ↔ Text.isBlankText (withoutLineEnd raw) :=
    ignored_iff hplain
  have hread : Command.parse (withoutLineEnd raw) = .ok none ↔
      ∀ c ∈ (withoutLineEnd raw).toList, Command.Grammar.isSeparator c := Command.parse_eq_none_iff
  refine ⟨hignored, hread, ?_, fun hblank hword => ?_⟩
  · rw [hignored]
    constructor
    · intro hagree hboth
      obtain ⟨hblank, c, hc, hnot⟩ := hboth
      exact hnot (hread.1 (hagree.1 hblank) c hc)
    · intro hnot
      have hunread : Text.isBlankText (withoutLineEnd raw) →
          Command.parse (withoutLineEnd raw) = .ok none :=
        fun hblank => hread.2 fun c hc => not_not.1 fun h => hnot ⟨hblank, c, hc, h⟩
      exact ⟨hunread, Command.isBlankText_of_parse⟩
  · have hblanks := List.all_eq_true.1 hblank
    have hoperators : ∀ c ∈ (withoutLineEnd raw).toList, Command.Grammar.operator? c = none :=
      fun c hc => Command.operator?_of_isBlank (hblanks c hc)
    exact Command.parse_of_no_operator hoperators hword

theorem ignored_iff_unread_separators :
    History.reference? (withoutLineEnd " \t\r\n").toList = none ∧
      Ignored Recycled.silent Recycled.session " \t\r\n" ∧
      Command.parse (withoutLineEnd " \t\r\n") = .ok none := by
  have hplain : History.reference? (withoutLineEnd " \t\r\n").toList = none := by decide
  have hchars : (withoutLineEnd " \t\r\n").toList = [' ', '\t'] := by decide
  obtain ⟨hignored, hread, -, -⟩ :=
    ignored_iff_unread Recycled.silent Recycled.session " \t\r\n" hplain
  refine ⟨hplain, hignored.2 (by decide), hread.2 ?_⟩
  rw [hchars, List.forall_mem_cons, List.forall_mem_singleton]
  decide

/-- An ideographic space is ignored, but it is no separator, and so the reader finds something
there. -/
theorem ideographic_space_ignored :
    History.reference? (withoutLineEnd "\u3000").toList = none ∧
      ¬ (Ignored Recycled.silent .fresh "\u3000" ↔
        Command.parse (withoutLineEnd "\u3000") = .ok none) := by
  have hchars : (withoutLineEnd "\u3000").toList = ['\u3000'] := by decide
  refine ⟨by decide, fun hagree => ?_⟩
  have hblank : Text.isBlankText (withoutLineEnd "\u3000") := by decide
  have hseparators := Command.parse_eq_none_iff.1 (hagree.1 (ignored_of_isBlankText hblank))
  rw [hchars, List.forall_mem_singleton] at hseparators
  exact absurd hseparators (by decide)

end Shell

end JobShell
