import JobShell.Command
import JobShell.Error
import JobShell.Text.Bytes

/-!
# Reading a command line

A line is read byte by byte with a cursor. Space, tab, line feed and carriage return separate
words; each of `<`, `>`, `|` and `&` stands for itself; every other run of bytes is a word. The
operators are ASCII, so that a word always ends between two characters; a word is cut out of the
line by `Text.slice?`, and a cut inside a character would be a `Fault` of its own.

Each step of the reader moves the cursor on, which is why it comes to an end.
-/

namespace JobShell.Command.Parser

open JobShell.Text

/-- Why reading stopped. -/
inductive Fault where
  /-- The line is not a command. -/
  | refused (cause : ParseError)
  /-- A word was cut inside a character. -/
  | brokenCut
  deriving DecidableEq, Repr

/-- A line, as characters and as bytes. -/
structure Source where
  chars : List Char
  bytes : List UInt8

/-- A line with its encoding. -/
def Source.ofString (line : String) : Source := ⟨line.toList, utf8 line.toList⟩

/-- The bytes that separate words. -/
def isSpace (b : UInt8) : Bool := b = 0x20 || b = 0x09 || b = 0x0A || b = 0x0D

/-- The bytes that stand for themselves: `<`, `>`, `|`, `&`. -/
def isOperator (b : UInt8) : Bool := b = 0x3C || b = 0x3E || b = 0x7C || b = 0x26

/-- The bytes that words are made of. -/
def isLetter (b : UInt8) : Bool := !isSpace b && !isOperator b

/-- The first position from `i` on whose byte is not in `p`. -/
def skip (p : UInt8 → Bool) (bytes : List UInt8) (i : Nat) : Nat :=
  i + ((bytes.drop i).takeWhile p).length

theorem le_skip (p : UInt8 → Bool) (bytes : List UInt8) (i : Nat) : i ≤ skip p bytes i :=
  Nat.le_add_right _ _

theorem lt_length_of_getElem? {bytes : List UInt8} {i : Nat} {b : UInt8}
    (h : bytes[i]? = some b) : i < bytes.length :=
  (List.getElem?_eq_some_iff.1 h).1

/-- Skipping stops before a byte outside the class. -/
theorem not_of_getElem?_skip {p : UInt8 → Bool} {bytes : List UInt8} {i : Nat} {b : UInt8}
    (h : bytes[skip p bytes i]? = some b) : p b = false := by
  have hhead := List.head?_dropWhile_not p (bytes.drop i)
  rw [skip, ← List.getElem?_drop] at h
  conv at h => lhs; rw [← List.takeWhile_append_dropWhile (p := p) (l := bytes.drop i)]
  rw [List.getElem?_append_right (by simp)] at h
  have hlen : ((bytes.drop i).takeWhile p).length -
      ((bytes.drop i).takeWhile p).length = 0 := Nat.sub_self _
  simp only [List.takeWhile_append_dropWhile, hlen, ← List.head?_eq_getElem?] at h
  rw [h] at hhead
  exact hhead

/-- Skipping moves past a byte of the class. -/
theorem lt_skip {p : UInt8 → Bool} {bytes : List UInt8} {i : Nat} {b : UInt8}
    (h : bytes[i]? = some b) (hb : p b = true) : i < skip p bytes i := by
  have hi := lt_length_of_getElem? h
  have hdrop : bytes.drop i = b :: bytes.drop (i + 1) := by
    rw [List.drop_eq_getElem_cons hi, (List.getElem?_eq_some_iff.1 h).2]
  simp only [skip, hdrop, List.takeWhile_cons, hb, if_true, List.length_cons]
  omega

/-- The word that begins at `i`, perhaps an empty one, and the position behind it. -/
def readWord (src : Source) (i : Nat) : Except Fault (String × Nat) :=
  let j := skip isLetter src.bytes i
  match slice? src.chars i j with
  | some word => .ok (String.ofList word, j)
  | none => .error .brokenCut

/-- The file name behind the redirection operator at `i`, and the position behind the name. -/
def readTarget (src : Source) (i : Nat) : Except Fault (String × Nat) :=
  match readWord src (skip isSpace src.bytes (i + 1)) with
  | .ok (word, j) => if word.isEmpty then .error (.refused .emptyRedirect) else .ok (word, j)
  | .error e => .error e

theorem eq_skip_of_readWord {src : Source} {i j : Nat} {word : String}
    (h : readWord src i = .ok (word, j)) : j = skip isLetter src.bytes i := by
  unfold readWord at h
  simp only at h
  split at h <;> cases h
  rfl

theorem lt_of_readTarget {src : Source} {i j : Nat} {word : String}
    (h : readTarget src i = .ok (word, j)) : i < j := by
  unfold readTarget at h
  split at h
  · rename_i w k hw
    split at h <;> cases h
    have hk := eq_skip_of_readWord hw
    have h1 := le_skip isSpace src.bytes (i + 1)
    have h2 := le_skip isLetter src.bytes (skip isSpace src.bytes (i + 1))
    omega
  · cases h

/-- What a stage begins with: no arguments, no redirections, in the foreground. -/
def blankStage : Stage := .ofArguments []

/-- Reads words and redirections from `i` on and adds them to `stage`, up to a bar, an ampersand
or the end. The position in the answer is that of the byte which ended the stage. -/
def readParts (src : Source) (stage : Stage) (i : Nat) : Except Fault (Stage × Nat) :=
  let k := skip isSpace src.bytes i
  match hk : src.bytes[k]? with
  | none => .ok (stage, k)
  | some b =>
    have hik : i ≤ k ∧ k < src.bytes.length :=
      ⟨le_skip isSpace src.bytes i, lt_length_of_getElem? hk⟩
    if hin : b = 0x3C then
      match hr : readTarget src k with
      | .ok (path, j) =>
        have := lt_of_readTarget hr
        readParts src { stage with input := some path } j
      | .error e => .error e
    else if hout : b = 0x3E then
      match hr : readTarget src k with
      | .ok (path, j) =>
        have := lt_of_readTarget hr
        readParts src { stage with output := some path } j
      | .error e => .error e
    else if hbar : b = 0x7C ∨ b = 0x26 then
      .ok (stage, k)
    else
      match hr : readWord src k with
      | .ok (word, j) =>
        have : k < j := by
          have hb : isLetter b = true := by
            have := not_of_getElem?_skip hk
            simp_all [isLetter, isOperator]
          rw [eq_skip_of_readWord hr]
          exact lt_skip hk hb
        readParts src { stage with arguments := stage.arguments ++ [word] } j
      | .error e => .error e
termination_by src.bytes.length - i

/-- Reads one stage from `i` on, which must have an argument. -/
def readStage (src : Source) (i : Nat) : Except Fault (Stage × Nat) :=
  match readParts src blankStage i with
  | .ok (stage, j) =>
    if stage.arguments.isEmpty then .error (.refused .emptyCommand) else .ok (stage, j)
  | .error e => .error e

/-- Ends a command at `i`, behind its last stage. An ampersand there puts the command into the
background, and nothing may follow it. -/
def readEnd (src : Source) (command : Command) (i : Nat) : Except Fault Command :=
  if src.bytes[i]? = some 0x26 then
    match slice? src.chars (skip isSpace src.bytes (i + 1)) src.bytes.length with
    | some [] => .ok command.background
    | some (c :: _) => .error (.refused (.trailingAfterBackground c))
    | none => .error .brokenCut
  else
    .ok command

/-- Reads the second stage of a command from `i` on, and its end. -/
def readSecond (src : Source) (first : Stage) (i : Nat) : Except Fault Command :=
  match readStage src i with
  | .ok (second, j) =>
    if src.bytes[j]? = some 0x7C then
      .error (.refused .pipelineTooLong)
    else
      readEnd src ((single first).pipeTo (single second)) j
  | .error e => .error e

/-- Reads a command from `i` on. -/
def readCommand (src : Source) (i : Nat) : Except Fault Command :=
  match readStage src i with
  | .ok (first, j) =>
    if src.bytes[j]? = some 0x7C then
      readSecond src first (j + 1)
    else
      readEnd src (single first) j
  | .error e => .error e

/-- The command on a line, or nothing if only spaces stand there. -/
def read (src : Source) : Except Fault (Option Command) :=
  let i := skip isSpace src.bytes 0
  if i < src.bytes.length then
    match readCommand src i with
    | .ok command => .ok (some command)
    | .error e => .error e
  else
    .ok none

end Parser

/-- The command that a line holds, or nothing if the line is empty but for spaces. -/
def parse (line : String) : Except Parser.Fault (Option Command) :=
  Parser.read (.ofString line)

end JobShell.Command
