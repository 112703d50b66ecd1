import JobShell.Machine.Regex
import JobShell.Machine.Tool.Basic

/-!
# Tools that look for patterns

`grep`, which writes the lines that match, and `sed`, which edits lines. Both work line by line, as
the input comes in.
-/

namespace JobShell.Machine.Tool

open Act

/-! ## Lines as they come in -/

/-- Lines that have come in: those that are complete, and the beginning of the next one. -/
def cutLines (data : Bytes) : List Bytes × Bytes :=
  let whole := Bytes.wholeLines data
  if Bytes.isEnded data then (whole, []) else (whole.dropLast, whole.getLastD [])

/-- Goes through lines with a state; `none` ends that. -/
def overLines {σ : Type} (f : σ → Bytes → Act (σ ⊕ σ)) : σ → List Bytes → Act (σ ⊕ σ)
  | s, [] => return .inl s
  | s, line :: rest => do
    match ← f s line with
    | .inl s => overLines f s rest
    | .inr s => return .inr s

/-- Goes through the lines of a file with a state, which `f` changes or, on the right, brings to an
end. Also says why reading failed. -/
def throughLines {σ : Type} (fd : Nat) (s : σ) (f : σ → Bytes → Act (σ ⊕ σ)) :
    Act ((σ ⊕ σ) × Option Errno) :=
  loop (([] : Bytes), s) fun (pending, s) => do
    match ← sys (.read fd blockSize) with
    | .error e => return .inr (.inl s, some e)
    | .ok [] =>
      let last ← overLines f s (if pending.isEmpty then [] else [pending])
      return .inr (last, none)
    | .ok data =>
      let (lines, pending) := cutLines (pending ++ data)
      match ← overLines f s lines with
      | .inl s => return .inl (pending, s)
      | .inr s => return .inr (.inr s, none)

/-- A line without its line feed. -/
def bareLine (line : Bytes) : Bytes :=
  if !line.isEmpty && Bytes.isEnded line then line.dropLast else line

/-! ## Writing the lines that match -/

/-- What is looked for, and what is told. -/
structure Search where
  patterns : List Regex
  ignoreCase : Bool
  inverted : Bool
  wholeLine : Bool
  wholeWord : Bool
  onlyMatching : Bool
  numbered : Bool
  counting : Bool
  listing : Bool
  quiet : Bool
  most : Option Nat
  named : Bool

namespace Search

/-- Whether a byte belongs to a word. -/
def isWordByte (b : UInt8) : Bool :=
  Bytes.isDigit b || b = 0x5F || (0x41 ≤ b && b ≤ 0x5A) || (0x61 ≤ b && b ≤ 0x7A)

/-- Whether a match from `a` to `b` is what is looked for. -/
def accepts (s : Search) (text : Array UInt8) (a b : Nat) : Bool :=
  if s.wholeLine then
    a = 0 && b = text.size
  else if s.wholeWord then
    !(a ≠ 0 && (text[a - 1]?).any isWordByte) && !(text[b]?).any isWordByte
  else
    true

/-- The first match from a place on that is looked for. -/
def find? (s : Search) (line : Array UInt8) (start : Nat) : Option (Nat × Nat) :=
  let found := s.patterns.filterMap fun r =>
    ((List.range (line.size + 1 - start)).map (start + ·)).findSome? fun i =>
      match Regex.search r s.ignoreCase line i with
      | some (a, b, _) => if s.accepts line a b then some (a, b) else none
      | none => none
  found.foldl (fun best m =>
    match best with
    | some b => if m.1 < b.1 || (m.1 = b.1 && b.2 < m.2) then some m else some b
    | none => some m) none

/-- All matches in a line, one behind the other. -/
def matchesIn (s : Search) (line : Array UInt8) : Nat → Nat → List Bytes
  | 0, _ => []
  | fuel + 1, start =>
    match s.find? line start with
    | none => []
    | some (a, b) =>
      if a = b then
        if b < line.size then s.matchesIn line fuel (b + 1) else []
      else
        (line.extract a b).toList :: s.matchesIn line fuel b

/-- What stands before a line that is told. -/
def heading (s : Search) (name : String) (number : Nat) : Bytes :=
  Bytes.ofString ((if s.named then name ++ ":" else "")
    ++ if s.numbered then toString number ++ ":" else "")

/-- Looks through one file; the value is the number of lines that match, and why reading failed. -/
def lookThrough (s : Search) (i : Invocation) (name : String) (fd : Nat) :
    Act (Nat × Option Errno) := do
  let (result, fault) ← throughLines fd (0, 1) fun (count, number) line => do
    let bytes := (bareLine line).toArray
    let isMatch := (s.find? bytes 0).isSome != s.inverted
    if !isMatch then
      return .inl (count, number + 1)
    else if s.quiet || s.listing then
      return .inr (count + 1, number + 1)
    else
      unless s.counting do
        if s.onlyMatching then
          for part in s.matchesIn bytes (bytes.size + 1) 0 do
            print i (s.heading name number ++ part ++ [Bytes.lineFeed])
        else
          print i (s.heading name number ++ bytes.toList ++ [Bytes.lineFeed])
      let next := (count + 1, number + 1)
      return if s.most.any (· ≤ count + 1) then .inr next else .inl next
  let count := match result with
    | .inl (count, _) | .inr (count, _) => count
  return (count, fault)

/-- Tells what was found in a file. -/
def conclude (s : Search) (i : Invocation) (name : String) (count : Nat) : Act Unit := do
  if s.quiet then
    return ()
  else if s.listing then
    if 0 < count then printText i (name ++ "\n")
  else if s.counting then
    printText i ((if s.named then name ++ ":" else "") ++ toString count ++ "\n")

end Search

/-- Whether the file on a descriptor is a regular one to which output goes as well. -/
def isOwnOutput (path : String) : Act Bool := do
  match ← sys (.status path), ← sys (.status "/dev/stdout") with
  | .ok a, .ok b => return a.kind = .regular && a.identity = b.identity
  | _, _ => return false

/-- The pattern that matches just a text. -/
def fixedPattern (text : Bytes) : Regex :=
  text.foldr (fun b r => .sequence (Regex.literal b) r) .nothing

/-- Writes the lines that match. -/
def grep : Tool := fun i => do
  let p ← parsed i ⟨"cvinqoFEGxwlhHs".toList, ['e', 'm'], false⟩ 2
  let (texts, operands) := match p.values 'e', p.operands with
    | [], text :: rest => ([text], rest)
    | [], [] => ([], [])
    | texts, rest => (texts, rest)
  if texts.isEmpty then
    complain "Usage: grep [OPTION]... PATTERNS [FILE]..."
    complain "Try 'grep --help' for more information."
    return 2
  else
    let compile := fun (text : String) =>
      if p.has 'F' then some (fixedPattern (Bytes.ofString text))
      else Regex.parse? (p.has 'E') (Bytes.ofString text)
    match (texts.flatMap (·.splitOn "\n")).mapM compile with
    | none => do
      warn i "Invalid regular expression"
      return 2
    | some patterns =>
      let files := inputs operands
      let s : Search := ⟨patterns, p.has 'i', p.has 'v', p.has 'x', p.has 'w', p.has 'o', p.has 'n',
        p.has 'c', p.has 'l', p.has 'q', (p.value? 'm').bind String.toNat?,
        p.has 'H' || (1 < files.length && !p.has 'h')⟩
      let mut found := false
      let mut good := true
      for operand in files do
        let name := if operand = "-" then "(standard input)" else operand
        match ← openOperand operand with
        | .error e =>
          unless p.has 's' do
            warn i (usualWording operand e)
          good := false
        | .ok fd =>
          if !s.quiet && !s.listing && !s.counting && s.most ≠ some 0
              && (← isOwnOutput (if operand = "-" then "/dev/stdin" else operand)) then
            closeOperand fd
            warn i (name ++ ": input file is also the output")
            good := false
            continue
          let (count, fault) ← s.lookThrough i name fd
          closeOperand fd
          match fault with
          | some e =>
            warn i (usualWording operand e)
            good := false
          | none => s.conclude i name count
          found := found || 0 < count
      return if !good && !(found && s.quiet) then 2 else codeOf found

/-! ## Editing lines -/

/-- Which lines a command is for. -/
inductive Address where
  | number (n : Nat)
  | last
  | pattern (r : Regex)

/-- A piece of a replacement. -/
inductive Replacement where
  | bytes (b : Bytes)
  /-- What a group matched; everything, if the number is zero. -/
  | group (n : Nat)

/-- What an editing command does. -/
inductive Edit where
  | substitute (r : Regex) (ignoreCase : Bool) (replacement : List Replacement) (all : Bool)
      (place : Nat) (shows : Bool)
  | translate (source target : Bytes)
  | print
  | delete
  | quit
  | showNumber

/-- An editing command. -/
structure EditCommand where
  first : Option Address
  last : Option Address
  inverted : Bool
  edit : Edit

namespace EditCommand

/-- The text up to a delimiter that is not behind a backslash, and what follows it. -/
def delimited (delimiter : Char) : List Char → Option (List Char × List Char)
  | [] => none
  | '\\' :: c :: rest =>
    (delimited delimiter rest).map fun (text, rest) =>
      (if c = delimiter then c :: text
        else if c = 'n' then '\n' :: text
        else '\\' :: c :: text, rest)
  | c :: rest =>
    if c = delimiter then some ([], rest)
    else (delimited delimiter rest).map fun (text, rest) => (c :: text, rest)

/-- Reads a replacement. -/
def replacement : List Char → List Replacement
  | [] => []
  | '&' :: rest => .group 0 :: replacement rest
  | '\\' :: c :: rest =>
    if c.isDigit then .group (c.toNat - 48) :: replacement rest
    else .bytes (Text.utf8 [c]) :: replacement rest
  | c :: rest => .bytes (Text.utf8 [c]) :: replacement rest

/-- Reads a pattern. -/
def regex? (extended : Bool) (cs : List Char) : Option Regex :=
  Regex.parse? extended (Text.utf8 cs)

/-- Reads an address, if there is one. -/
def address? (extended : Bool) (cs : List Char) : Option (Option Address × List Char) :=
  match cs with
  | '$' :: rest => some (some .last, rest)
  | '/' :: rest =>
    (delimited '/' rest).bind fun (text, rest) =>
      (regex? extended text).map fun r => (some (.pattern r), rest)
  | _ =>
    let digits := cs.takeWhile Char.isDigit
    if digits.isEmpty then some (none, cs)
    else some (some (.number (Pid.digitsValue digits)), cs.drop digits.length)

/-- Reads a substitution behind its letter. -/
def substitution? (extended : Bool) (cs : List Char) : Option (Edit × List Char) := do
  let delimiter ← cs.head?
  let (pattern, rest) ← delimited delimiter cs.tail
  let (target, rest) ← delimited delimiter rest
  let r ← regex? extended pattern
  let flags := rest.takeWhile fun c => c = 'g' || c = 'p' || c = 'i' || c = 'I' || c.isDigit
  let place := Pid.digitsValue (flags.filter Char.isDigit)
  let ignoreCase := flags.contains 'i' || flags.contains 'I'
  return (.substitute r ignoreCase (replacement target) (flags.contains 'g') (max place 1)
    (flags.contains 'p'), rest.drop flags.length)

/-- Reads an edit. -/
def edit? (extended : Bool) : List Char → Option (Edit × List Char)
  | 's' :: rest => substitution? extended rest
  | 'y' :: delimiter :: rest => do
    let (source, rest) ← delimited delimiter rest
    let (target, rest) ← delimited delimiter rest
    if source.length = target.length then
      return (.translate (Text.utf8 source) (Text.utf8 target), rest)
    else
      none
  | 'p' :: rest => some (.print, rest)
  | 'd' :: rest => some (.delete, rest)
  | 'q' :: rest => some (.quit, rest)
  | '=' :: rest => some (.showNumber, rest)
  | _ => none

/-- Reads editing commands. -/
def readAll (extended : Bool) : Nat → List Char → Option (List EditCommand)
  | 0, _ => none
  | fuel + 1, cs => do
    let cs := cs.dropWhile fun c => c = ' ' || c = '\t' || c = '\n' || c = ';'
    if cs.isEmpty then
      return []
    else
      let (first, rest) ← address? extended cs
      let (last, rest) ← match first, rest with
        | some _, ',' :: rest => address? extended rest
        | _, _ => some (none, rest)
      let rest := rest.dropWhile (· = ' ')
      let (inverted, rest) := match rest with
        | '!' :: rest => (true, rest.dropWhile (· = ' '))
        | _ => (false, rest)
      let (edit, rest) ← edit? extended rest
      let rest := rest.dropWhile fun c => c = ' ' || c = '\t'
      match rest with
      | [] | ';' :: _ | '\n' :: _ =>
        return ⟨first, last, inverted, edit⟩ :: (← readAll extended fuel rest)
      | _ => none

/-- What a replacement becomes for one match. -/
def fill (line : Array UInt8) (a b : Nat) (groups : Regex.Groups) (rs : List Replacement) :
    Bytes :=
  rs.flatMap fun
    | .bytes bs => bs
    | .group 0 => (line.extract a b).toList
    | .group n =>
      match groups.lookup n with
      | some (a, b) => (line.extract a b).toList
      | none => []

/-- A line after a substitution, from a place on. `left` matches are still to be left alone; `none`
says that nothing was replaced. -/
def substituted (r : Regex) (ignoreCase : Bool) (rs : List Replacement) (all : Bool)
    (line : Array UInt8) : Nat → Nat → Nat → Option Bytes
  | 0, _, _ => none
  | fuel + 1, left, start =>
    match Regex.search r ignoreCase line start with
    | none => none
    | some (a, b, groups) =>
      -- behind an empty match, one byte is passed over
      let kept := if a = b then (line.extract a (a + 1)).toList else []
      let next := if a = b then a + 1 else b
      let before := (line.extract start a).toList
      let behind := fun (n : Nat) =>
        if next ≤ line.size then substituted r ignoreCase rs all line fuel n next else none
      let rest := (line.extract next line.size).toList
      if 0 < left then
        (behind (left - 1)).map fun more => before ++ (line.extract a b).toList ++ kept ++ more
      else
        let filled := before ++ fill line a b groups rs ++ kept
        if all then some (filled ++ (behind 0).getD rest) else some (filled ++ rest)

/-- Whether a line is at an address. -/
def isAt (line : Array UInt8) (number : Nat) (isLast : Bool) : Address → Bool
  | .number n => n = number
  | .last => isLast
  | .pattern r => (Regex.search r false line 0).isSome

/-- Whether a command is for a line, and whether it is inside its range behind it. -/
def applies (c : EditCommand) (inside : Bool) (line : Array UInt8) (number : Nat)
    (isLast : Bool) : Bool × Bool :=
  let (hit, inside) := match c.first, c.last with
    | none, _ => (true, false)
    | some a, none => (isAt line number isLast a, false)
    | some a, some b =>
      if inside then
        (true, match b with
          | .number n => number < n
          | _ => !isAt line number isLast b)
      else if isAt line number isLast a then
        (true, match b with
          | .number n => number < n
          | .last => !isLast
          | .pattern _ => true)
      else
        (false, false)
  (hit != c.inverted, inside)

end EditCommand

/-- A line that is being edited. -/
structure Editing where
  line : Bytes
  /-- What has been written for it already. -/
  written : List Bytes
  isDeleted : Bool
  quits : Bool

/-- Carries out the commands on one line; also says which ranges go on behind it. -/
def editLine (number : Nat) (isLast : Bool) :
    List (EditCommand × Bool) → Editing → Editing × List Bool
  | [], e => (e, [])
  | (c, inside) :: rest, e =>
    if e.isDeleted || e.quits then
      let (e, more) := editLine number isLast rest e
      (e, inside :: more)
    else
      let line := e.line.toArray
      let (hit, inside) := c.applies inside line number isLast
      let e := if !hit then e else match c.edit with
        | .print => { e with written := e.written ++ [e.line] }
        | .delete => { e with isDeleted := true }
        | .quit => { e with quits := true }
        | .showNumber => { e with written := e.written ++ [Bytes.ofString (toString number)] }
        | .translate source target =>
          { e with line := e.line.map fun b =>
              ((source.idxOf? b).bind fun k => target[k]?).getD b }
        | .substitute r ignoreCase rs all place shows =>
          match EditCommand.substituted r ignoreCase rs all line (line.size + 2) (place - 1) 0 with
          | some changed =>
            { e with
              line := changed
              written := if shows then e.written ++ [changed] else e.written }
          | none => e
      let (e, more) := editLine number isLast rest e
      (e, inside :: more)

/-- How far editing has come: the number of the next line, the ranges that go on, and a line that
has come in but may be the last one. A line end that a file lacks is made up for if more follows. -/
structure EditState where
  number : Nat
  ranges : List Bool
  held : Option Bytes
  /-- Whether a line end has to be written before anything else. -/
  owesEnd : Bool

/-- Edits lines. -/
def sed : Tool := fun i => do
  let p ← parsed i ⟨"nErsu".toList, ['e'], false⟩ 1
  let (scripts, operands) := match p.values 'e', p.operands with
    | [], text :: rest => ([text], rest)
    | texts, rest => (texts, rest)
  if scripts.isEmpty then
    complain "Usage: sed [OPTION]... \x7bscript-only-if-no-other-script\x7d [input-file]..."
    return 1
  else
    let script := "\n".intercalate scripts
    match EditCommand.readAll (p.has 'E' || p.has 'r') (script.length + 1) script.toList with
    | none => do
      warn i "-e expression #1, char 1: unknown command"
      return 1
    | some commands =>
      let process := fun (s : EditState) (line : Bytes) (isLast : Bool) => do
        let (e, ranges) := editLine s.number isLast (commands.zip s.ranges)
          ⟨bareLine line, [], false, false⟩
        let ending := if Bytes.isEnded line then [Bytes.lineFeed] else []
        let shown := e.written.flatMap (· ++ [Bytes.lineFeed])
          ++ if p.has 'n' || e.isDeleted then [] else e.line ++ ending
        unless shown.isEmpty do
          print i ((if s.owesEnd then [Bytes.lineFeed] else []) ++ shown)
        let owesEnd := if shown.isEmpty then s.owesEnd else !Bytes.isEnded shown
        return (⟨s.number + 1, ranges, none, owesEnd⟩, e.quits)
      let mut state : EditState := ⟨1, commands.map fun _ => false, none, false⟩
      let mut good := true
      for operand in inputs operands do
        match ← openOperand operand with
        | .error e =>
          warn i ("can't read " ++ usualWording operand e)
          good := false
        | .ok fd =>
          let (result, fault) ← throughLines fd state fun (s : EditState) line => do
            match s.held with
            | none => return .inl { s with held := some line }
            | some before =>
              let (s, quits) ← process s before false
              if quits then return .inr s
              else return .inl { s with held := some line }
          closeOperand fd
          if let some e := fault then
            warn i ("couldn't read " ++ usualWording operand e)
            good := false
          match result with
          | .inl s => state := s
          | .inr _ => exit 0
      if let some line := state.held then
        let _ ← process state line true
      return if good then 0 else 2

end JobShell.Machine.Tool
