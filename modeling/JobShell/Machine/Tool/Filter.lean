import JobShell.Machine.Tool.Basic

/-!
# Filters

Tools that read lines or bytes and write some of them, in another order or another form.
-/

namespace JobShell.Machine.Tool

open Act

/-- Copies its operands as the bytes come in. -/
def copyOperands (i : Invocation) (operands : List String) : Act Nat := do
  let mut good := true
  for operand in inputs operands do
    match ← openOperand operand with
    | .error e =>
      warn i (usualWording operand e)
      good := false
    | .ok fd =>
      let fault ← loop () fun () => do
        match ← sys (.read fd blockSize) with
        | .ok [] => return .inr none
        | .ok data =>
          print i data
          return .inl ()
        | .error e => return .inr (some e)
      closeOperand fd
      if let some e := fault then
        warn i (usualWording operand e)
        good := false
  return codeOf good

/-- Lines with numbers before them; `all` counts empty lines too. -/
def numberLines (all : Bool) : Nat → List Bytes → List Bytes
  | _, [] => []
  | n, line :: rest =>
    if !all && (line = [] || line = [Bytes.lineFeed]) then
      line :: numberLines all n rest
    else
      (Bytes.ofString (padLeft 6 (toString n) ++ "\t") ++ line) :: numberLines all (n + 1) rest

/-- Lines without the repetition of empty ones. -/
def squeezeBlank : Bool → List Bytes → List Bytes
  | _, [] => []
  | blank, line :: rest =>
    if line = [Bytes.lineFeed] then
      if blank then squeezeBlank true rest else line :: squeezeBlank true rest
    else
      line :: squeezeBlank false rest

/-- A line with a mark at its end. -/
def markEnd (line : Bytes) : Bytes :=
  if Bytes.isEnded line && !line.isEmpty then line.dropLast ++ [0x24, Bytes.lineFeed] else line

/-- Writes its operands one after the other. -/
def cat : Tool := fun i => do
  let p ← parsed i (.ofPlain "nbsETAvu") 1
  if p.options.all (·.1 = 'u') then
    copyOperands i p.operands
  else
    let (found, good) ← contents i usualWording p.operands
    let lines := Bytes.wholeLines (found.map Prod.snd).flatten
    let lines := if p.has 's' then squeezeBlank false lines else lines
    let lines := if p.has 'E' || p.has 'A' then lines.map markEnd else lines
    let lines := if p.has 'b' then numberLines false 1 lines
      else if p.has 'n' then numberLines true 1 lines
      else lines
    print i lines.flatten
    return codeOf good

/-- Copies standard input to standard output and to files. -/
def tee : Tool := fun i => do
  let p ← parsed i (.ofPlain "ai") 1
  let mut files := []
  let mut good := true
  for path in p.operands do
    match ← sys (.openFile path (if p.has 'a' then .appending else .overwriting)) with
    | .ok fd => files := fd :: files
    | .error e =>
      warn i (usualWording path e)
      good := false
  let targets := 1 :: files.reverse
  loop () fun () => do
    match ← sys (.read 0 blockSize) with
    | .ok (b :: rest) =>
      for fd in targets do
        let _ ← writeAll fd (b :: rest)
      return .inl ()
    | _ => return .inr (codeOf good)

/-! ## Order -/

/-- The number that a line begins with: its sign, its whole digits without leading zeros, and the
digits of its fraction. -/
def leadingNumber (line : Bytes) : Bool × Bytes × Bytes :=
  let line := line.dropWhile Bytes.isSpace
  let (negative, line) := match line with
    | 0x2D :: rest => (true, rest)
    | _ => (false, line)
  let whole := line.takeWhile Bytes.isDigit
  let fraction := match line.drop whole.length with
    | 0x2E :: rest => rest.takeWhile Bytes.isDigit
    | _ => []
  (negative, whole.dropWhile (· = 0x30), (fraction.reverse.dropWhile (· = 0x30)).reverse)

/-- Whether the magnitude of one number is less than that of another. -/
def magnitudeBefore (a b : Bytes × Bytes) : Bool :=
  if a.1.length ≠ b.1.length then a.1.length < b.1.length
  else if a.1 ≠ b.1 then Bytes.before a.1 b.1
  else Bytes.before a.2 b.2

/-- Whether one line comes before another by the numbers that they begin with. -/
def numberBefore (a b : Bytes) : Bool :=
  let (an, a) := leadingNumber a
  let (bn, b) := leadingNumber b
  let isZero := fun (x : Bytes × Bytes) => x.1.isEmpty && x.2.isEmpty
  let an := an && !isZero a
  let bn := bn && !isZero b
  match an, bn with
  | false, false => magnitudeBefore a b
  | true, true => magnitudeBefore b a
  | true, false => true
  | false, true => false

/-- How lines are put in order. -/
structure SortOrder where
  numeric : Bool
  reversed : Bool
  ignoreCase : Bool
  ignoreBlanks : Bool
  unique : Bool
  /-- The byte between fields. -/
  separator : Option UInt8
  /-- The first and the last field of the key. -/
  fields : Option (Nat × Option Nat)

namespace SortOrder

/-- The fields of a line; without a separator, each begins with the blanks before it. -/
def split (o : SortOrder) (line : Bytes) : List Bytes :=
  match o.separator with
  | some s => Bytes.splitOn s line
  | none =>
    let rec go : Nat → Bytes → List Bytes
      | 0, _ => []
      | _, [] => []
      | fuel + 1, b :: rest =>
        let blanks := (b :: rest).takeWhile Bytes.isSpace
        let after := (b :: rest).drop blanks.length
        let word := after.takeWhile (!Bytes.isSpace ·)
        (blanks ++ word) :: go fuel (after.drop word.length)
    go (line.length + 1) line

/-- The part of a line by which it is put in order. -/
def key (o : SortOrder) (line : Bytes) : Bytes :=
  let chosen := match o.fields with
    | none => line
    | some (first, last) =>
      let fields := (o.split line).drop (first - 1)
      let fields := match last with
        | some last => fields.take (last + 1 - first)
        | none => fields
      match o.separator with
      | some s => [s].intercalate fields
      | none => fields.flatten
  let chosen := if o.ignoreBlanks then chosen.dropWhile Bytes.isSpace else chosen
  if o.ignoreCase then chosen.map Bytes.upper else chosen

/-- Whether the key of one line comes before that of another. -/
def keyBefore (o : SortOrder) (a b : Bytes) : Bool :=
  let before := if o.numeric then numberBefore else Bytes.before
  if o.reversed then before (o.key b) (o.key a) else before (o.key a) (o.key b)

/-- Whether one line comes before another; lines with equal keys are compared as a whole. -/
def lineBefore (o : SortOrder) (a b : Bytes) : Bool :=
  if o.keyBefore a b then true
  else if o.keyBefore b a then false
  else if o.unique then false
  else if o.reversed then Bytes.before b a
  else Bytes.before a b

/-- The lines in order. -/
def arrange (o : SortOrder) (lines : List Bytes) : List Bytes :=
  let sorted := lines.mergeSort fun a b => !o.lineBefore b a
  if o.unique then
    sorted.foldr (fun line kept =>
      match kept with
      | next :: rest =>
        if !o.keyBefore line next && !o.keyBefore next line then line :: rest
        else line :: kept
      | [] => [line]) []
  else
    sorted

end SortOrder

/-- The fields that a key option names. -/
def keyFields? (s : String) : Option (Nat × Option Nat × List Char) :=
  let readField := fun (cs : List Char) =>
    let digits := cs.takeWhile Char.isDigit
    let cs := cs.drop digits.length
    let cs := match cs with
      | '.' :: rest => rest.dropWhile Char.isDigit
      | _ => cs
    (Pid.digits? digits, cs.takeWhile (· ≠ ','), cs.dropWhile (· ≠ ','))
  let (first, letters, rest) := readField s.toList
  match first, rest with
  | some first, [] => some (first, none, letters)
  | some first, _ :: rest =>
    let (last, more, _) := readField rest
    last.map fun last => (first, some last, letters ++ more)
  | none, _ => none

/-- Writes lines in order. -/
def sort : Tool := fun i => do
  let p ← parsed i ⟨"nrufbcsdigV".toList, ['o', 'k', 't'], false⟩ 2
  let field := (p.value? 'k').bind keyFields?
  let letters := p.options.map Prod.fst ++ (match field with | some (_, _, ls) => ls | none => [])
  let o : SortOrder := ⟨letters.contains 'n' || letters.contains 'g', letters.contains 'r',
    letters.contains 'f', letters.contains 'b', p.has 'u',
    ((p.value? 't').map Bytes.ofString).bind List.head?,
    field.map fun (first, last, _) => (first, last)⟩
  let mut lines := []
  for operand in inputs p.operands do
    match ← contentOf operand with
    | .ok data => lines := lines ++ Bytes.lines data
    | .error e =>
      if e = .isDirectory then
        warn i ("read failed: " ++ usualWording operand e)
      else
        warn i ("cannot read: " ++ usualWording operand e)
      exit 2
  if p.has 'c' then
    let pairs := lines.zip (lines.drop 1)
    return codeOf (pairs.all fun (a, b) => !o.lineBefore b a)
  else
    let result := Bytes.ofLines (o.arrange lines)
    match p.value? 'o' with
    | some path =>
      match ← sys (.openFile path .overwriting) with
      | .ok fd =>
        let _ ← writeAll fd result
        return 0
      | .error e =>
        warn i ("open failed: " ++ usualWording path e)
        return 2
    | none =>
      print i result
      return 0

/-- Runs of equal lines with their lengths. -/
def runs (same : Bytes → Bytes → Bool) : List Bytes → List (Nat × Bytes)
  | [] => []
  | line :: rest =>
    match runs same rest with
    | (n, next) :: more =>
      if same line next then (n + 1, line) :: more else (1, line) :: (n, next) :: more
    | [] => [(1, line)]

/-- Writes each run of equal lines once. -/
def uniq : Tool := fun i => do
  let p ← parsed i (.ofPlain "cdui") 1
  if let some extra := p.operands[2]? then
    refuse i 1 ("extra operand '" ++ extra ++ "'")
  let openOr := fun (path : String) (opened : Except Errno Nat) => do
    match opened with
    | .ok fd => return fd
    | .error e =>
      warn i (usualWording path e)
      exit 1
  let operand := p.operands.headD "-"
  let source ← openOr operand (← openOperand operand)
  let target ← match p.operands[1]? with
    | some path => openOr path (← sys (.openFile path .overwriting))
    | none => pure 1
  match ← readAll source with
  | .error e =>
    warn i ("error reading '" ++ operand ++ "': " ++ e.wording)
    return 1
  | .ok data =>
    let same := fun a b => if p.has 'i' then a.map Bytes.lower == b.map Bytes.lower else a == b
    let kept := (runs same (Bytes.lines data)).filter fun (n, _) =>
      (!p.has 'd' || 1 < n) && (!p.has 'u' || n = 1)
    let shown := kept.map fun (n, line) =>
      if p.has 'c' then Bytes.ofString (padLeft 7 (toString n) ++ " ") ++ line else line
    let _ ← writeAll target (Bytes.ofLines shown)
    return 0

/-! ## Parts -/

/-- The ranges of places that a list names; the end of an open range is missing. -/
def placeRanges? (s : String) : Option (List (Nat × Option Nat)) :=
  (s.splitOn ",").mapM fun part =>
    match part.splitOn "-" with
    | [n] => (Pid.digits? n.toList).map fun n => (n, some n)
    | ["", last] => (Pid.digits? last.toList).map fun last => (1, some last)
    | [first, ""] => (Pid.digits? first.toList).map fun first => (first, none)
    | [first, last] => do
      let first ← Pid.digits? first.toList
      let last ← Pid.digits? last.toList
      if first ≤ last then some (first, some last) else none
    | _ => none

/-- Whether a place is in one of the ranges. -/
def isPlace (ranges : List (Nat × Option Nat)) (n : Nat) : Bool :=
  ranges.any fun (first, last) => first ≤ n && last.all (n ≤ ·)

/-- The elements at the places that are in one of the ranges. -/
def pickPlaces {α : Type} (ranges : List (Nat × Option Nat)) (xs : List α) : List α :=
  (xs.mapIdx fun k x => (k + 1, x)).filterMap fun (n, x) =>
    if isPlace ranges n then some x else none

/-- Writes parts of lines. -/
def cut : Tool := fun i => do
  let p ← parsed i ⟨['s', 'n'], ['c', 'b', 'f', 'd'], false⟩ 1
  let choice := (['c', 'b', 'f'].filterMap fun c => (p.value? c).map (c, ·)).head?
  match choice with
  | none => refuse i 1 "you must specify a list of bytes, characters, or fields"
  | some (kind, places) =>
    match placeRanges? places with
    | none => refuse i 1 ("invalid " ++ (if kind = 'f' then "field" else "byte/character")
        ++ " range")
    | some ranges =>
      if ranges.any (·.1 = 0) then
        refuse i 1 ((if kind = 'f' then "fields" else "byte/character positions")
          ++ " are numbered from 1")
      let delimiter := (((p.value? 'd').map Bytes.ofString).bind List.head?).getD 0x09
      let pick := fun (line : Bytes) =>
        if kind = 'f' then
          if line.contains delimiter then
            some ([delimiter].intercalate (pickPlaces ranges (Bytes.splitOn delimiter line)))
          else if p.has 's' then none
          else some line
        else
          some (pickPlaces ranges line)
      let (found, good) ← contents i usualWording p.operands
      print i (found.flatMap fun (_, data) => Bytes.ofLines ((Bytes.lines data).filterMap pick))
      return codeOf good

/-- The name that a heading shows for an operand. -/
def headingName (operand : String) : String :=
  if operand = "-" then "standard input" else operand

/-- Writes a part of each operand, with headings if there are several. -/
def writeParts (i : Invocation) (operands : List String) (quiet verbose : Bool)
    (part : Bytes → Bytes) : Act Nat := do
  let operands := inputs operands
  let headings := verbose || (1 < operands.length && !quiet)
  let mut good := true
  let mut first := true
  for operand in operands do
    match ← contentOf operand with
    | .error e =>
      if e = .isDirectory then
        warn i ("error reading '" ++ headingName operand ++ "': " ++ e.wording)
      else
        warn i ("cannot open '" ++ operand ++ "' for reading: " ++ e.wording)
      good := false
    | .ok data =>
      if headings then
        printText i ((if first then "" else "\n") ++ "==> " ++ headingName operand ++ " <==\n")
      first := false
      print i (part data)
  return codeOf good

/-- Arguments in which a count directly behind a dash is an option with a value. -/
def spellCount (arguments : List String) : List String :=
  arguments.flatMap fun a =>
    match a.toList with
    | '-' :: c :: cs => if (c :: cs).all Char.isDigit then ["-n", String.ofList (c :: cs)] else [a]
    | _ => [a]

/-- Reads lines until there are enough of them, and writes those. -/
def firstLines (i : Invocation) (fd count : Nat) : Act Unit :=
  loop count fun left => do
    if left = 0 then
      return .inr ()
    else
      match ← sys (.read fd blockSize) with
      | .ok (b :: rest) =>
        let lines := (Bytes.wholeLines (b :: rest)).take left
        print i lines.flatten
        return .inl (left - (lines.filter fun l => Bytes.isEnded l).length)
      | _ => return .inr ()

/-- Writes the beginning of its operands. -/
def head : Tool := fun i => do
  let i := { i with arguments := spellCount i.arguments }
  let p ← parsed i ⟨['q', 'v'], ['n', 'c'], false⟩ 1
  let (isBytes, text) := match p.value? 'c' with
    | some s => (true, s)
    | none => (false, (p.value? 'n').getD "10")
  match integer? text with
  | none => do
    warn i ("invalid number of " ++ (if isBytes then "bytes" else "lines") ++ ": '" ++ text ++ "'")
    return 1
  | some n =>
    let fromEnd := text.startsWith "-"
    let count := n.natAbs
    if p.operands.isEmpty && !isBytes && !fromEnd && !p.has 'v' then
      firstLines i 0 count
      return 0
    else
      writeParts i p.operands (p.has 'q') (p.has 'v') fun data =>
        if isBytes then
          if fromEnd then data.take (data.length - count) else data.take count
        else
          let lines := Bytes.wholeLines data
          (if fromEnd then lines.take (lines.length - count) else lines.take count).flatten

/-- Writes the end of its operands. -/
def tail : Tool := fun i => do
  let i := { i with arguments := spellCount i.arguments }
  let p ← parsed i ⟨['q', 'v', 'f'], ['n', 'c'], false⟩ 1
  let (isBytes, text) := match p.value? 'c' with
    | some s => (true, s)
    | none => (false, (p.value? 'n').getD "10")
  match integer? text with
  | none => do
    warn i ("invalid number of " ++ (if isBytes then "bytes" else "lines") ++ ": '" ++ text ++ "'")
    return 1
  | some n =>
    let fromStart := text.startsWith "+"
    let count := n.natAbs
    writeParts i p.operands (p.has 'q') (p.has 'v') fun data =>
      if isBytes then
        if fromStart then data.drop (count - 1) else data.drop (data.length - count)
      else
        let lines := Bytes.wholeLines data
        (if fromStart then lines.drop (count - 1) else lines.drop (lines.length - count)).flatten

/-- Counts lines, words and bytes. -/
def wc : Tool := fun i => do
  let p ← parsed i (.ofPlain "lwcmL") 1
  let chosen := ['l', 'w', 'm', 'c', 'L'].filter p.has
  let chosen := if chosen.isEmpty then ['l', 'w', 'c'] else chosen
  let count := fun (data : Bytes) (c : Char) =>
    match c with
    | 'l' => data.count Bytes.lineFeed
    | 'w' => Bytes.wordCount data
    | 'L' => ((Bytes.lines data).map List.length).foldl max 0
    | _ => data.length
  let operands := inputs p.operands
  let mut rows := []
  let mut good := true
  let mut regular := 0
  let mut special := false
  for operand in operands do
    let status ← if operand = "-" then
        sys (.status "/dev/stdin")
      else
        sys (.status operand)
    match status with
    | .ok s => if s.kind = .regular then regular := regular + s.size else special := true
    | .error _ => special := special
    match ← contentOf operand with
    | .ok data => rows := (operand, chosen.map (count data)) :: rows
    | .error e =>
      warn i (usualWording operand e)
      good := false
      if e = .isDirectory then
        rows := (operand, chosen.map fun _ => 0) :: rows
  let shown := rows.reverse
  let single := operands.length = 1 && chosen.length = 1
  let digits := (toString regular).length
  let width := if single then 1 else if special then max 7 digits else digits
  let show' := fun (row : String × List Nat) =>
    " ".intercalate (row.2.map fun n => padLeft width (toString n))
      ++ (if p.operands.isEmpty then "" else " " ++ row.1) ++ "\n"
  for row in shown do
    printText i (show' row)
  if 1 < operands.length then
    let totals := chosen.mapIdx fun k _ => shown.foldl (fun n row => n + row.2.getD k 0) 0
    printText i (show' ("total", totals))
  return codeOf good

/-- Writes lines with their bytes in reverse. -/
def rev : Tool := fun i => do
  let (found, good) ← contents i usualWording i.arguments
  for (_, data) in found do
    print i ((Bytes.wholeLines data).flatMap fun line =>
      if Bytes.isEnded line then line.dropLast.reverse ++ [Bytes.lineFeed] else line.reverse)
  return codeOf good

/-- Writes lines in reverse. -/
def tac : Tool := fun i => do
  let wording := fun (operand : String) (e : Errno) =>
    if e = .isDirectory then operand ++ ": read error: " ++ e.wording
    else "failed to open '" ++ operand ++ "' for reading: " ++ e.wording
  let (found, good) ← contents i wording i.arguments
  for (_, data) in found do
    print i (Bytes.wholeLines data).reverse.flatten
  return codeOf good

/-- Writes lines with numbers before those that are not empty. -/
def nl : Tool := fun i => do
  let p ← parsed i ⟨[], ['b', 'w', 's'], false⟩ 1
  let (found, good) ← contents i usualWording p.operands
  let lines := found.flatMap fun (_, data) => Bytes.lines data
  let all := p.value? 'b' = some "a"
  let rec go : Nat → List Bytes → List Bytes
    | _, [] => []
    | n, line :: rest =>
      if line.isEmpty && !all then
        Bytes.ofString "       " :: go n rest
      else
        (Bytes.ofString (padLeft 6 (toString n) ++ "\t") ++ line) :: go (n + 1) rest
  print i (Bytes.ofLines (go 1 lines))
  return codeOf good

/-! ## Translation -/

/-- The bytes that a set of `tr` names. -/
def translationSet : Nat → List Char → Bytes
  | 0, _ => []
  | _, [] => []
  | fuel + 1, '[' :: ':' :: rest =>
    let name := rest.takeWhile (· ≠ ':')
    match rest.drop name.length with
    | ':' :: ']' :: more =>
      let bytes : Bytes := match String.ofList name with
        | "upper" => (List.range 26).map fun k => UInt8.ofNat (0x41 + k)
        | "lower" => (List.range 26).map fun k => UInt8.ofNat (0x61 + k)
        | "digit" => (List.range 10).map fun k => UInt8.ofNat (0x30 + k)
        | "alpha" => (List.range 26).map (fun k => UInt8.ofNat (0x41 + k))
            ++ (List.range 26).map fun k => UInt8.ofNat (0x61 + k)
        | "alnum" => (List.range 10).map (fun k => UInt8.ofNat (0x30 + k))
            ++ (List.range 26).map (fun k => UInt8.ofNat (0x41 + k))
            ++ (List.range 26).map fun k => UInt8.ofNat (0x61 + k)
        | "space" => [0x09, 0x0A, 0x0B, 0x0C, 0x0D, 0x20]
        | "blank" => [0x09, 0x20]
        | "punct" => ((List.range 94).map fun k => UInt8.ofNat (0x21 + k)).filter fun b =>
            !((0x30 ≤ b && b ≤ 0x39) || (0x41 ≤ b && b ≤ 0x5A) || (0x61 ≤ b && b ≤ 0x7A))
        | _ => []
      bytes ++ translationSet fuel more
    | _ => 0x5B :: translationSet fuel (':' :: rest)
  | fuel + 1, cs =>
    let readOne := fun (cs : List Char) =>
      match cs with
      | '\\' :: c :: rest =>
        match c with
        | 'n' => ([0x0A], rest)
        | 't' => ([0x09], rest)
        | 'r' => ([0x0D], rest)
        | '\\' => ([0x5C], rest)
        | _ =>
          let digits := (c :: rest).take 3 |>.takeWhile fun d => '0' ≤ d ∧ d ≤ '7'
          if digits.isEmpty then
            (Text.utf8 [c], rest)
          else
            ([UInt8.ofNat (digits.foldl (fun (n : Nat) (d : Char) => 8 * n + (d.toNat - 48)) 0)],
              (c :: rest).drop digits.length)
      | c :: rest => (Text.utf8 [c], rest)
      | [] => ([], [])
    let (low, rest) := readOne cs
    match low, rest with
    | [a], '-' :: next :: more =>
      match readOne (next :: more) with
      | ([b], more) =>
        ((List.range (b.toNat + 1 - a.toNat)).map fun k => UInt8.ofNat (a.toNat + k))
          ++ translationSet fuel more
      | _ => low ++ translationSet fuel rest
    | _, _ => low ++ translationSet fuel rest

/-- Bytes without the repetition of those in a set. -/
def squeezeBytes (set : Bytes) : Option UInt8 → Bytes → Bytes
  | _, [] => []
  | last, b :: rest =>
    if last = some b && set.contains b then
      squeezeBytes set last rest
    else
      b :: squeezeBytes set (some b) rest

/-- Replaces, deletes or squeezes bytes. -/
def tr : Tool := fun i => do
  let p ← parsed i ⟨"cCdst".toList, [], true⟩ 1
  let sets := p.operands.map fun s => translationSet (s.length + 1) s.toList
  match sets, p.has 'd', p.has 's' with
  | [], _, _ => refuse i 1 "missing operand"
  | [_], false, false =>
    refuse i 1 ("missing operand after '" ++ p.operands.headD "" ++ "'")
  | _ :: _ :: _ :: _, _, _ => refuse i 1 ("extra operand '" ++ p.operands.getD 2 "" ++ "'")
  | first :: more, deletes, squeezes =>
    let second := more.headD []
    let complement := p.has 'c' || p.has 'C'
    let first := if complement then
        ((List.range 256).map UInt8.ofNat).filter (!first.contains ·)
      else first
    if more.length = 1 && deletes && !squeezes then
      refuse i 1 ("extra operand '" ++ p.operands.getD 1 "" ++ "'")
    match ← readAll 0 with
    | .error e => do
      warn i ("read error: " ++ e.wording)
      return 1
    | .ok data =>
      let last := second.getLast?
      let translate := fun (b : UInt8) =>
        match first.reverse.idxOf? b with
        | some k => ((second[first.length - 1 - k]?).or last).getD b
        | none => b
      let data := if deletes then data.filter (!first.contains ·)
        else if second.isEmpty then data
        else data.map translate
      let data := if squeezes then
          squeezeBytes (if second.isEmpty then first else second) none data
        else data
      print i data
      return 0

end JobShell.Machine.Tool
