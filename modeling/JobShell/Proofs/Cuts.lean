import JobShell.Proofs.Reading

/-!
# Cuts

The reader of a command line goes over the line byte by byte and cuts words out of it, which makes
sense only between two characters. `isSome_slice?_iff` says when a cut finds something. `notedRead`
is the reader with a note of each cut that it tries and of each turn of its loop; it reads what the
reader reads, and if no cut is broken then all notes fit the line (`notes_read`).
-/

namespace JobShell.Text

/-! ## Positions in a text -/

variable {cs rest word : List Char} {n i j : Nat}

theorem utf8Length_eq_utf8ByteSize (cs : List Char) :
    utf8Length cs = (String.ofList cs).utf8ByteSize := by
  simp [utf8Length, utf8, String.utf8ByteSize, String.toByteArray_ofList, List.utf8Encode]

/-- The positions between two characters are those behind some characters of the text. -/
theorem isValid_iff {s : String} :
    String.Pos.Raw.IsValid s ⟨i⟩ ↔
      ∃ before behind, s.toList = before ++ behind ∧ i = utf8Length before := by
  rw [String.Pos.Raw.isValid_iff_exists_append]
  constructor
  · rintro ⟨s₁, s₂, rfl, h⟩
    refine ⟨s₁.toList, s₂.toList, String.toList_append, ?_⟩
    rw [utf8Length_eq_utf8ByteSize, String.ofList_toList]
    exact congrArg String.Pos.Raw.byteIdx h
  · rintro ⟨before, behind, hs, rfl⟩
    refine ⟨.ofList before, .ofList behind, ?_, ?_⟩
    · rw [← String.ofList_append, ← hs, String.ofList_toList]
    · rw [utf8Length_eq_utf8ByteSize]
      rfl

theorem dropBytes?_eq_some_iff :
    dropBytes? cs n = some rest ↔ ∃ before, cs = before ++ rest ∧ n = utf8Length before := by
  constructor
  · intro h
    fun_induction dropBytes? cs n with
    | case1 cs =>
      cases h
      exact ⟨[], rfl, rfl⟩
    | case2 => cases h
    | case3 c cs n hc ih =>
      obtain ⟨before, rfl, hn⟩ := ih h
      refine ⟨c :: before, rfl, ?_⟩
      rw [utf8Length_cons]
      omega
    | case4 => cases h
  · rintro ⟨before, rfl, rfl⟩
    exact dropBytes?_append before rest

theorem takeBytes?_eq_some_iff :
    takeBytes? cs n = some word ↔ ∃ behind, cs = word ++ behind ∧ n = utf8Length word := by
  constructor
  · intro h
    fun_induction takeBytes? cs n generalizing word with
    | case1 cs =>
      cases h
      exact ⟨cs, rfl, rfl⟩
    | case2 => cases h
    | case3 c cs n hc ih =>
      obtain ⟨word, hword, rfl⟩ := Option.map_eq_some_iff.1 h
      obtain ⟨behind, rfl, hn⟩ := ih hword
      refine ⟨behind, rfl, ?_⟩
      rw [utf8Length_cons]
      omega
    | case4 => cases h
  · rintro ⟨behind, rfl, rfl⟩
    exact takeBytes?_append word behind

theorem slice?_eq_some_iff :
    slice? cs i j = some word ↔
      ∃ before behind, cs = before ++ word ++ behind ∧ i = utf8Length before ∧
        j = i + utf8Length word := by
  constructor
  · intro h
    rw [slice?] at h
    split at h
    next hij =>
      obtain ⟨rest, hrest, hword⟩ := Option.bind_eq_some_iff.1 h
      obtain ⟨before, rfl, hi⟩ := dropBytes?_eq_some_iff.1 hrest
      obtain ⟨behind, rfl, hj⟩ := takeBytes?_eq_some_iff.1 hword
      refine ⟨before, behind, (List.append_assoc ..).symm, hi, ?_⟩
      omega
    next => cases h
  · rintro ⟨before, behind, rfl, rfl, rfl⟩
    exact slice?_append before word behind

/-- A cut finds something exactly if it does not end before it begins and both of its ends stand
between two characters of the text. -/
theorem isSome_slice?_iff {s : String} :
    (slice? s.toList i j).isSome ↔
      i ≤ j ∧ String.Pos.Raw.IsValid s ⟨i⟩ ∧ String.Pos.Raw.IsValid s ⟨j⟩ := by
  rw [Option.isSome_iff_exists, isValid_iff, isValid_iff]
  constructor
  · rintro ⟨word, h⟩
    obtain ⟨before, behind, hs, rfl, rfl⟩ := slice?_eq_some_iff.1 h
    have hbefore : s.toList = before ++ (word ++ behind) := by rw [hs, List.append_assoc]
    have hlength : utf8Length before + utf8Length word = utf8Length (before ++ word) := by
      rw [utf8Length_append]
    exact ⟨Nat.le_add_right _ _, ⟨before, word ++ behind, hbefore, rfl⟩,
      ⟨before ++ word, behind, hs, hlength⟩⟩
  · rintro ⟨hij, ⟨before, rest, hs, rfl⟩, ⟨before', behind, hs', rfl⟩⟩
    rw [hs] at hs'
    -- One of the two positions is behind the other, and the word is what lies in between.
    rcases List.append_eq_append_iff.1 hs' with ⟨word, rfl, rfl⟩ | ⟨word, rfl, rfl⟩
    · refine ⟨word, slice?_eq_some_iff.2 ⟨before, behind, ?_, rfl, ?_⟩⟩
      · rw [hs, List.append_assoc]
      · rw [utf8Length_append]
    · rw [utf8Length_append] at hij
      have hzero : utf8Length word = 0 := by omega
      refine ⟨[], slice?_eq_some_iff.2 ⟨before' ++ word, rest, ?_, rfl, ?_⟩⟩
      · rw [hs, List.append_nil]
      · rw [utf8Length_append, hzero]
        rfl

/-- The second byte of the line is inside of its first character. -/
example : slice? "é|".toList 1 2 = none := by decide

end JobShell.Text

namespace JobShell.Command.Parser

open JobShell.Text

/-! ## Notes -/

/-- What the reader does with its cursor. -/
inductive Note where
  /-- It cuts out what stands between two positions. -/
  | cut (start stop : Nat)
  /-- A turn of its loop takes it from one position to another. -/
  | turn (start stop : Nat)
  deriving DecidableEq, Repr

/-- A cut fits a line if it begins and ends between two characters, and does not end before it
begins. A turn fits if it moves on. Neither may leave the line. -/
def Note.Fits (line : String) : Note → Prop
  | cut start stop =>
    start ≤ stop ∧ stop ≤ line.utf8ByteSize ∧ String.Pos.Raw.IsValid line ⟨start⟩ ∧
      String.Pos.Raw.IsValid line ⟨stop⟩
  | turn start stop => start < stop ∧ stop ≤ line.utf8ByteSize

/-- A reading with a list of notes, which is kept also where the reading stops. -/
abbrev Noted (α : Type) : Type := ExceptT Fault (StateM (List Note)) α

/-- Cuts the line; the cut is noted before it is tried. -/
def notedCut (src : Source) (start stop : Nat) : Noted (List Char) := do
  modify (· ++ [.cut start stop])
  match slice? src.chars start stop with
  | some cs => return cs
  | none => throw .brokenCut

/-- Notes a turn of the loop. -/
def notedTurn (start stop : Nat) : Noted Unit := modify (· ++ [.turn start stop])

/-- The position behind the word that begins at `i`. -/
def wordEnd (src : Source) (i : Nat) : Nat := skip isLetter src.bytes i

/-- The position behind the file name of the redirection operator at `i`. -/
def targetEnd (src : Source) (i : Nat) : Nat := wordEnd src (skip isSpace src.bytes (i + 1))

/-- `readWord` with notes; the position in its answer is `wordEnd`. -/
def notedWord (src : Source) (i : Nat) : Noted String := do
  return String.ofList (← notedCut src i (wordEnd src i))

/-- `readTarget` with notes; the position in its answer is `targetEnd`. -/
def notedTarget (src : Source) (i : Nat) : Noted String := do
  let word ← notedWord src (skip isSpace src.bytes (i + 1))
  if word.isEmpty then throw (.refused .emptyRedirect) else return word

theorem lt_targetEnd (src : Source) (i : Nat) : i < targetEnd src i := by
  have hspace := le_skip isSpace src.bytes (i + 1)
  have hword := le_skip isLetter src.bytes (skip isSpace src.bytes (i + 1))
  rw [targetEnd, wordEnd]
  omega

theorem lt_wordEnd {src : Source} {i : Nat} {b : UInt8}
    (hb : src.bytes[skip isSpace src.bytes i]? = some b) (hin : b ≠ 0x3C) (hout : b ≠ 0x3E)
    (hend : ¬(b = 0x7C ∨ b = 0x26)) :
    skip isSpace src.bytes i < wordEnd src (skip isSpace src.bytes i) := by
  have hspace := not_of_getElem?_skip hb
  rw [not_or] at hend
  refine lt_skip hb ?_
  simp [isLetter, isOperator, hspace, hin, hout, hend.1, hend.2]

/-- `readParts` with notes. -/
def notedParts (src : Source) (stage : Stage) (i : Nat) : Noted (Stage × Nat) :=
  let k := skip isSpace src.bytes i
  match hk : src.bytes[k]? with
  | none => return (stage, k)
  | some b =>
    if hin : b = 0x3C then do
      let path ← notedTarget src k
      notedTurn i (targetEnd src k)
      notedParts src { stage with input := some path } (targetEnd src k)
    else if hout : b = 0x3E then do
      let path ← notedTarget src k
      notedTurn i (targetEnd src k)
      notedParts src { stage with output := some path } (targetEnd src k)
    else if hend : b = 0x7C ∨ b = 0x26 then
      return (stage, k)
    else do
      let word ← notedWord src k
      notedTurn i (wordEnd src k)
      have : k < wordEnd src k := lt_wordEnd hk hin hout hend
      notedParts src { stage with arguments := stage.arguments ++ [word] } (wordEnd src k)
termination_by src.bytes.length - i
decreasing_by
  all_goals
    have hik := le_skip isSpace src.bytes i
    have hlength := lt_length_of_getElem? hk
    have htarget := lt_targetEnd src k
    subst k
    omega

theorem notedParts_of_none {src : Source} {i : Nat} (stage : Stage)
    (hk : src.bytes[skip isSpace src.bytes i]? = none) :
    notedParts src stage i = return (stage, skip isSpace src.bytes i) := by
  unfold notedParts
  dsimp only
  split
  next => rfl
  next b hb => cases hk.symm.trans hb

/-- What a turn of the loop does depends on the first byte that is no space. -/
theorem notedParts_of_some {src : Source} {i : Nat} {b : UInt8} (stage : Stage)
    (hk : src.bytes[skip isSpace src.bytes i]? = some b) :
    notedParts src stage i =
      let k := skip isSpace src.bytes i
      (if b = 0x3C then do
        let path ← notedTarget src k
        notedTurn i (targetEnd src k)
        notedParts src { stage with input := some path } (targetEnd src k)
      else if b = 0x3E then do
        let path ← notedTarget src k
        notedTurn i (targetEnd src k)
        notedParts src { stage with output := some path } (targetEnd src k)
      else if b = 0x7C ∨ b = 0x26 then
        return (stage, k)
      else do
        let word ← notedWord src k
        notedTurn i (wordEnd src k)
        notedParts src { stage with arguments := stage.arguments ++ [word] } (wordEnd src k)) := by
  conv => lhs; unfold notedParts
  dsimp only
  split
  next hb => cases hk.symm.trans hb
  next b' hb =>
    cases hk.symm.trans hb
    rfl

/-- `readStage` with notes. -/
def notedStage (src : Source) (i : Nat) : Noted (Stage × Nat) := do
  let (stage, j) ← notedParts src blankStage i
  if stage.arguments.isEmpty then throw (.refused .emptyCommand) else return (stage, j)

/-- `readEnd` with notes. -/
def notedEnd (src : Source) (command : Command) (i : Nat) : Noted Command := do
  if src.bytes[i]? = some 0x26 then
    match ← notedCut src (skip isSpace src.bytes (i + 1)) src.bytes.length with
    | [] => return command.background
    | c :: _ => throw (.refused (.trailingAfterBackground c))
  else
    return command

/-- `readSecond` with notes. -/
def notedSecond (src : Source) (first : Stage) (i : Nat) : Noted Command := do
  let (second, j) ← notedStage src i
  if src.bytes[j]? = some 0x7C then
    throw (.refused .pipelineTooLong)
  else
    notedEnd src ((single first).pipeTo (single second)) j

/-- `readCommand` with notes. -/
def notedCommand (src : Source) (i : Nat) : Noted Command := do
  let (first, j) ← notedStage src i
  if src.bytes[j]? = some 0x7C then
    notedSecond src first (j + 1)
  else
    notedEnd src (single first) j

/-- `read` with notes. -/
def notedRead (src : Source) : Noted (Option Command) := do
  let i := skip isSpace src.bytes 0
  if i < src.bytes.length then
    return some (← notedCommand src i)
  else
    return none

/-! ## The notes fit -/

/-- A reading with notes comes to `result`, and its notes fit the line unless a cut is broken. -/
def Notes {α : Type} (line : String) (x : Noted α) (result : Except Fault α) : Prop :=
  ∀ notes, ∃ new, x.run.run notes = (result, notes ++ new) ∧
    (result ≠ .error .brokenCut → ∀ note ∈ new, note.Fits line)

namespace Notes

variable {α β : Type} {line : String}

theorem pure (a : α) : Notes line (Pure.pure a) (.ok a) :=
  fun notes => ⟨[], by rw [List.append_nil]; rfl, fun _ => List.forall_mem_nil _⟩

theorem throw (e : Fault) : Notes line (MonadExcept.throw e : Noted α) (.error e) :=
  fun notes => ⟨[], by rw [List.append_nil]; rfl, fun _ => List.forall_mem_nil _⟩

theorem run_bind (x : Noted α) (f : α → Noted β) (notes : List Note) :
    (x >>= f).run.run notes =
      match x.run.run notes with
      | (.ok a, notes) => (f a).run.run notes
      | (.error e, notes) => (.error e, notes) := by
  rw [ExceptT.run_bind, StateT.run_bind]
  show (fun r : Except Fault α × List Note => _) (x.run.run notes) = _
  rcases x.run.run notes with ⟨_ | _, _⟩ <;> rfl

/-- A reading that goes on notes what both of its parts note. -/
theorem bind_ok {x : Noted α} {f : α → Noted β} {a : α} {result : Except Fault β}
    (hx : Notes line x (.ok a)) (hf : Notes line (f a) result) : Notes line (x >>= f) result := by
  intro notes
  obtain ⟨new, hrun, hfits⟩ := hx notes
  obtain ⟨new', hrun', hfits'⟩ := hf (notes ++ new)
  refine ⟨new ++ new', ?_, fun he => List.forall_mem_append.2 ⟨hfits nofun, hfits' he⟩⟩
  rw [run_bind, hrun, ← List.append_assoc]
  exact hrun'

/-- A reading that has stopped notes nothing more. -/
theorem bind_error {x : Noted α} {f : α → Noted β} {e : Fault} (hx : Notes line x (.error e)) :
    Notes line (x >>= f) (.error e) := by
  intro notes
  obtain ⟨new, hrun, hfits⟩ := hx notes
  refine ⟨new, ?_, fun he => hfits fun h => he (congrArg Except.error (Except.error.inj h))⟩
  rw [run_bind, hrun]

/-- A reading goes on if its first part comes to something, and stops where that stops. -/
theorem bind {x : Noted α} {f : α → Noted β} {first : Except Fault α} {result : Except Fault β}
    (hx : Notes line x first) (hok : ∀ a, first = .ok a → Notes line (f a) result)
    (herror : ∀ e, first = .error e → result = .error e) : Notes line (x >>= f) result := by
  cases first with
  | ok a => exact hx.bind_ok (hok a rfl)
  | error e =>
    rw [herror e rfl]
    exact hx.bind_error

theorem turn {i j : Nat} (hij : i < j) (hj : j ≤ line.utf8ByteSize) :
    Notes line (notedTurn i j) (.ok ()) :=
  fun _ => ⟨[.turn i j], rfl, fun _ => List.forall_mem_singleton.2 ⟨hij, hj⟩⟩

/-- A cut that finds something fits. -/
theorem cut_ok {i j : Nat} {cs : List Char} (h : slice? line.toList i j = some cs) :
    Notes line (notedCut (.ofString line) i j) (.ok cs) := by
  obtain ⟨hij, hi, hj⟩ := isSome_slice?_iff.1 (Option.isSome_of_eq_some h)
  have hfits : Note.Fits line (.cut i j) := ⟨hij, hj.le_rawEndPos, hi, hj⟩
  refine fun notes => ⟨[.cut i j], ?_, fun _ => List.forall_mem_singleton.2 hfits⟩
  show (match slice? line.toList i j with
    | some cs => Pure.pure cs
    | none => MonadExcept.throw _ : Noted _).run.run _ = _
  rw [h]
  rfl

theorem cut_error {i j : Nat} (h : slice? line.toList i j = none) :
    Notes line (notedCut (.ofString line) i j) (.error .brokenCut) := by
  refine fun notes => ⟨[.cut i j], ?_, fun hne => absurd rfl hne⟩
  show (match slice? line.toList i j with
    | some cs => Pure.pure cs
    | none => MonadExcept.throw _ : Noted _).run.run _ = _
  rw [h]
  rfl

end Notes

section

variable (line : String)

theorem skip_le (p : UInt8 → Bool) {bytes : List UInt8} {i : Nat} (h : i ≤ bytes.length) :
    skip p bytes i ≤ bytes.length := by
  have htake := (List.takeWhile_sublist p (l := bytes.drop i)).length_le
  rw [List.length_drop] at htake
  rw [skip]
  omega

theorem length_bytes_ofString :
    (Source.ofString line).bytes.length = line.utf8ByteSize := by
  show utf8Length line.toList = _
  rw [utf8Length_eq_utf8ByteSize, String.ofList_toList]

/-- A word is read with a note, and the cursor is then behind it. -/
theorem notes_word (i : Nat) :
    Notes line (notedWord (.ofString line) i) ((readWord (.ofString line) i).map Prod.fst) := by
  rw [readWord]
  split
  next word h => exact .bind_ok (.cut_ok h) (.pure _)
  next h => exact .bind_error (.cut_error h)

theorem notes_target (i : Nat) :
    Notes line (notedTarget (.ofString line) i) ((readTarget (.ofString line) i).map Prod.fst) := by
  have hword := notes_word line (skip isSpace (Source.ofString line).bytes (i + 1))
  rw [readTarget]
  split
  next word j h =>
    rw [h] at hword
    refine hword.bind_ok ?_
    split
    · exact .throw _
    · exact .pure _
  next e h =>
    rw [h] at hword
    exact hword.bind_error

theorem eq_targetEnd_of_readTarget {src : Source} {i j : Nat} {path : String}
    (h : readTarget src i = .ok (path, j)) : j = targetEnd src i := by
  rw [readTarget] at h
  split at h
  next word k hword =>
    split at h <;> cases h
    exact eq_skip_of_readWord hword
  next => cases h

theorem targetEnd_le {src : Source} {i : Nat} (h : i < src.bytes.length) :
    targetEnd src i ≤ src.bytes.length :=
  skip_le _ (skip_le _ h)

/-- A turn of the loop that reads a redirection. -/
theorem Notes.redirection {α : Type} {line : String} {f : String → Noted α}
    {result : Except Fault α} {path : String} {i k j : Nat}
    (hik : i ≤ k ∧ k < (Source.ofString line).bytes.length)
    (hr : readTarget (.ofString line) k = .ok (path, j)) (hf : Notes line (f path) result) :
    Notes line (do
      let path ← notedTarget (.ofString line) k
      notedTurn i (targetEnd (.ofString line) k)
      f path) result := by
  have htarget := notes_target line k
  rw [hr] at htarget
  have hend := targetEnd_le hik.2
  rw [length_bytes_ofString] at hend
  exact htarget.bind_ok (.bind_ok (.turn (Nat.lt_of_le_of_lt hik.1 (lt_targetEnd ..)) hend) hf)

theorem notes_parts (stage : Stage) (i : Nat) :
    Notes line (notedParts (.ofString line) stage i) (readParts (.ofString line) stage i) := by
  fun_induction readParts (.ofString line) stage i with
  | case1 stage i k hk =>
    rw [notedParts_of_none stage hk]
    exact .pure _
  | case2 stage i k path j hr _ hk hik ih =>
    rw [notedParts_of_some stage hk]
    refine .redirection hik hr ?_
    rw [← eq_targetEnd_of_readTarget hr]
    exact ih
  | case3 stage i k e hr hk _ =>
    have htarget := notes_target line k
    rw [hr] at htarget
    rw [notedParts_of_some stage hk]
    exact htarget.bind_error
  | case4 stage i k path j hr _ hk hik _ ih =>
    rw [notedParts_of_some stage hk]
    refine .redirection hik hr ?_
    rw [← eq_targetEnd_of_readTarget hr]
    exact ih
  | case5 stage i k e hr hk _ _ =>
    have htarget := notes_target line k
    rw [hr] at htarget
    rw [notedParts_of_some stage hk]
    exact htarget.bind_error
  | case6 stage i k b hk _ hin hout hend =>
    rw [notedParts_of_some stage hk]
    dsimp only
    rw [if_neg hin, if_neg hout, if_pos hend]
    exact .pure _
  | case7 stage i k b hk hik hin hout hend word j hr _ ih =>
    have hword : Notes line (notedWord (.ofString line) k) (.ok word) := by
      have h := notes_word line k
      rwa [hr] at h
    rw [notedParts_of_some stage hk]
    dsimp only
    rw [if_neg hin, if_neg hout, if_neg hend]
    obtain rfl := eq_skip_of_readWord hr
    refine hword.bind_ok (.bind_ok (.turn ?_ ?_) ih)
    · exact Nat.lt_of_le_of_lt hik.1 (lt_wordEnd hk hin hout hend)
    · rw [← length_bytes_ofString]
      exact skip_le _ (Nat.le_of_lt hik.2)
  | case8 stage i k b hk _ hin hout hend e hr =>
    have hword := notes_word line k
    rw [hr] at hword
    rw [notedParts_of_some stage hk]
    dsimp only
    rw [if_neg hin, if_neg hout, if_neg hend]
    exact hword.bind_error

theorem notes_stage (i : Nat) :
    Notes line (notedStage (.ofString line) i) (readStage (.ofString line) i) := by
  refine (notes_parts line blankStage i).bind (fun ⟨stage, j⟩ h => ?_) fun e h => ?_
  · rw [readStage, h]
    dsimp only
    split
    · exact .throw _
    · exact .pure _
  · rw [readStage, h]

theorem notes_end (command : Command) (i : Nat) :
    Notes line (notedEnd (.ofString line) command i) (readEnd (.ofString line) command i) := by
  rw [notedEnd, readEnd]
  split
  next =>
    split
    next h => exact .bind_ok (.cut_ok h) (.pure _)
    next c cs h => exact .bind_ok (.cut_ok h) (.throw _)
    next h => exact .bind_error (.cut_error h)
  next => exact .pure _

theorem notes_second (first : Stage) (i : Nat) :
    Notes line (notedSecond (.ofString line) first i) (readSecond (.ofString line) first i) := by
  refine (notes_stage line i).bind (fun ⟨second, j⟩ h => ?_) fun e h => ?_
  · rw [readSecond, h]
    dsimp only
    split
    · exact .throw _
    · exact notes_end line _ _
  · rw [readSecond, h]

theorem notes_command (i : Nat) :
    Notes line (notedCommand (.ofString line) i) (readCommand (.ofString line) i) := by
  refine (notes_stage line i).bind (fun ⟨first, j⟩ h => ?_) fun e h => ?_
  · rw [readCommand, h]
    dsimp only
    split
    · exact notes_second line _ _
    · exact notes_end line _ _
  · rw [readCommand, h]

/-- The reader with notes reads what the reader reads, and its notes fit unless a cut is broken. -/
theorem notes_read : Notes line (notedRead (.ofString line)) (parse line) := by
  rw [notedRead, parse, read]
  split
  next =>
    refine (notes_command line _).bind (fun command h => ?_) fun e h => ?_
    · rw [h]
      exact .pure _
    · rw [h]
  next => exact .pure _

end

end JobShell.Command.Parser
