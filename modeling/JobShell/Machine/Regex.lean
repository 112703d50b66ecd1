import JobShell.Machine.Lines

/-!
# Regular expressions

The patterns of line-oriented tools, in the basic notation, where braces, groups and alternatives
are marked by a backslash, and in the extended one, where they are not. Matching looks for the
leftmost place and tries longer repetitions first.
-/

namespace JobShell.Machine

/-- A pattern over bytes. -/
inductive Regex where
  | nothing
  /-- One byte inside one of the ranges, or outside all of them. -/
  | one (ranges : List (UInt8 × UInt8)) (negated : Bool)
  | sequence (first second : Regex)
  | either (first second : Regex)
  | repeated (body : Regex) (least : Nat) (most : Option Nat)
  /-- A part whose match is remembered under a number. -/
  | group (number : Nat) (body : Regex)
  /-- What a group matched. -/
  | again (number : Nat)
  | lineStart
  | lineEnd
  deriving Inhabited

namespace Regex

/-- What the groups have matched: number, start and end. -/
abbrev Groups : Type := List (Nat × Nat × Nat)

/-- Matches `r` at a place of `text`, and then whatever `next` stands for. -/
def run {β : Type} (text : Array UInt8) (fold : UInt8 → UInt8) :
    Nat → Regex → Nat → Groups → (Nat → Groups → Option β) → Option β
  | 0, _, _, _, _ => none
  | fuel + 1, r, i, groups, next =>
    match r with
    | nothing => next i groups
    | one ranges negated =>
      match text[i]? with
      | some b =>
        let inside := ranges.any fun (low, high) =>
          (low ≤ b && b ≤ high) || (fold low ≤ fold b && fold b ≤ fold high)
        if inside != negated then next (i + 1) groups else none
      | none => none
    | sequence first second =>
      run text fold fuel first i groups fun j groups => run text fold fuel second j groups next
    | either first second =>
      (run text fold fuel first i groups next).orElse fun _ =>
        run text fold fuel second i groups next
    | repeated body least most =>
      let onceMore := fun (_ : Unit) =>
        if most = some 0 then
          none
        else
          run text fold fuel body i groups fun j groups =>
            if j = i && least = 0 then
              none
            else
              run text fold fuel (repeated body (least - 1) (most.map (· - 1))) j groups next
      (onceMore ()).orElse fun _ => if least = 0 then next i groups else none
    | group number body =>
      run text fold fuel body i groups fun j groups => next j ((number, i, j) :: groups)
    | again number =>
      match groups.lookup number with
      | some (a, b) =>
        let part := text.extract a b
        if text.extract i (i + part.size) = part then next (i + part.size) groups else none
      | none => none
    | lineStart => if i = 0 then next i groups else none
    | lineEnd => if i = text.size then next i groups else none

/-- The leftmost match from `start` on: where it begins and ends, and its groups. -/
def search (r : Regex) (ignoreCase : Bool) (text : Array UInt8) (start : Nat) :
    Option (Nat × Nat × Groups) :=
  let fold := if ignoreCase then Bytes.lower else id
  let fuel := 64 * (text.size + 1024)
  ((List.range (text.size + 1 - start)).map (start + ·)).findSome? fun i =>
    run text fold fuel r i [] fun j groups => some (i, j, groups)

/-! ## Reading patterns -/

/-- The ranges of a named class of bytes. -/
def namedClass? : String → Option (List (UInt8 × UInt8))
  | "alpha" => some [(0x41, 0x5A), (0x61, 0x7A)]
  | "digit" => some [(0x30, 0x39)]
  | "alnum" => some [(0x30, 0x39), (0x41, 0x5A), (0x61, 0x7A)]
  | "upper" => some [(0x41, 0x5A)]
  | "lower" => some [(0x61, 0x7A)]
  | "space" => some [(0x09, 0x0D), (0x20, 0x20)]
  | "blank" => some [(0x09, 0x09), (0x20, 0x20)]
  | "punct" => some [(0x21, 0x2F), (0x3A, 0x40), (0x5B, 0x60), (0x7B, 0x7E)]
  | "print" => some [(0x20, 0x7E)]
  | "graph" => some [(0x21, 0x7E)]
  | "cntrl" => some [(0x00, 0x1F), (0x7F, 0x7F)]
  | "xdigit" => some [(0x30, 0x39), (0x41, 0x46), (0x61, 0x66)]
  | _ => none

/-- Every byte. -/
def any : Regex := one [] true

/-- The byte `b`. -/
def literal (b : UInt8) : Regex := one [(b, b)] false

/-- Reads a named class behind its opening colon: the class and what follows it. -/
def readNamedClass? (bs : Bytes) : Option (List (UInt8 × UInt8) × Bytes) :=
  let name := bs.takeWhile (· ≠ 0x3A)
  match bs.drop name.length with
  | 0x3A :: 0x5D :: rest => (namedClass? (Bytes.toString name)).map (·, rest)
  | _ => none

/-- Reads the ranges of a bracket expression up to its closing bracket. -/
def readRanges : Nat → Bool → Bytes → List (UInt8 × UInt8) →
    Option (List (UInt8 × UInt8) × Bytes)
  | 0, _, _, _ => none
  | fuel + 1, first, bs, ranges =>
    match bs with
    | [] => none
    | 0x5D :: rest => if first then readRanges fuel false rest (ranges ++ [(0x5D, 0x5D)])
      else some (ranges, rest)
    | 0x5B :: 0x3A :: rest =>
      match readNamedClass? rest with
      | some (more, rest) => readRanges fuel false rest (ranges ++ more)
      | none => readRanges fuel false (0x3A :: rest) (ranges ++ [(0x5B, 0x5B)])
    | low :: 0x2D :: high :: rest =>
      if high = 0x5D then
        readRanges fuel false (0x2D :: high :: rest) (ranges ++ [(low, low)])
      else
        readRanges fuel false rest (ranges ++ [(low, high)])
    | b :: rest => readRanges fuel false rest (ranges ++ [(b, b)])

/-- Reads a bracket expression behind its opening bracket. -/
def readBracket (bs : Bytes) : Option (Regex × Bytes) :=
  let (negated, bs) := match bs with
    | 0x5E :: rest => (true, rest)
    | _ => (false, bs)
  (readRanges (bs.length + 1) true bs []).map fun (ranges, rest) => (one ranges negated, rest)

/-- The value of leading digits, and what follows them. -/
def readNumber (bs : Bytes) : Option Nat × Bytes :=
  let digits := bs.takeWhile Bytes.isDigit
  (if digits.isEmpty then none
    else some (digits.foldl (fun n b => 10 * n + (b.toNat - 0x30)) 0), bs.drop digits.length)

/-- Reads the bounds of a repetition behind the opening brace, up to `close`. -/
def readBounds (close : Bytes) (bs : Bytes) : Option (Nat × Option Nat × Bytes) :=
  let (least, bs) := readNumber bs
  let (least, most, bs) := match bs with
    | 0x2C :: rest =>
      let (most, rest) := readNumber rest
      (least.getD 0, most, rest)
    | _ => (least.getD 0, some (least.getD 0), bs)
  if close.isPrefixOf bs then some (least, most, bs.drop close.length) else none

/-- The marks of a pattern. -/
inductive Mark where
  | openGroup | closeGroup | bar | star | plus | optional | openBounds
  | byte (b : UInt8)
  | anyByte | bracket | startAnchor | endAnchor
  | back (n : Nat)

/-- The first mark of a pattern and what follows it. -/
def nextMark (extended : Bool) : Bytes → Option (Mark × Bytes)
  | [] => none
  | 0x5C :: b :: rest =>
    if Bytes.isDigit b && b ≠ 0x30 then some (.back (b.toNat - 0x30), rest)
    else if extended then some (.byte b, rest)
    else match b with
      | 0x28 => some (.openGroup, rest)
      | 0x29 => some (.closeGroup, rest)
      | 0x7C => some (.bar, rest)
      | 0x2B => some (.plus, rest)
      | 0x3F => some (.optional, rest)
      | 0x7B => some (.openBounds, rest)
      | _ => some (.byte b, rest)
  | b :: rest =>
    match b, extended with
    | 0x2E, _ => some (.anyByte, rest)
    | 0x5B, _ => some (.bracket, rest)
    | 0x2A, _ => some (.star, rest)
    | 0x5E, _ => some (.startAnchor, rest)
    | 0x24, _ => some (.endAnchor, rest)
    | 0x28, true => some (.openGroup, rest)
    | 0x29, true => some (.closeGroup, rest)
    | 0x7C, true => some (.bar, rest)
    | 0x2B, true => some (.plus, rest)
    | 0x3F, true => some (.optional, rest)
    | 0x7B, true => some (.openBounds, rest)
    | _, _ => some (.byte b, rest)

/-- What has been read of a pattern inside one pair of parentheses. -/
structure Open where
  /-- The number of the group, zero for the whole pattern. -/
  number : Nat
  /-- The alternatives that are complete. -/
  finished : List Regex
  /-- The pieces of the alternative being read, the last one first. -/
  pieces : List Regex

namespace Open

/-- The alternative being read. -/
def current (o : Open) : Regex := o.pieces.foldl (fun r piece => sequence piece r) nothing

/-- All alternatives. -/
def whole (o : Open) : Regex :=
  o.finished.foldl (fun r alternative => either alternative r) o.current

/-- Adds a piece. -/
def add (o : Open) (r : Regex) : Open := { o with pieces := r :: o.pieces }

/-- Repeats the last piece; without one, the mark stands for itself. -/
def repeatLast (o : Open) (least : Nat) (most : Option Nat) (mark : UInt8) : Open :=
  match o.pieces with
  | [] => o.add (literal mark)
  | lineStart :: _ => o.add (literal mark)
  | last :: rest => { o with pieces := repeated last least most :: rest }

end Open

/-- Reads a pattern mark by mark, keeping the open groups. -/
def readMarks (extended : Bool) : Nat → Bytes → Nat → List Open → Option Regex
  | 0, _, _, _ => none
  | fuel + 1, bs, count, opens =>
    match opens with
    | [] => none
    | o :: outer =>
      match nextMark extended bs with
      | none => if outer.isEmpty then some o.whole else none
      | some (mark, rest) =>
        let goOn := fun o => readMarks extended fuel rest count (o :: outer)
        match mark with
        | .openGroup => readMarks extended fuel rest (count + 1) (⟨count + 1, [], []⟩ :: opens)
        | .closeGroup =>
          match outer with
          | [] => if extended then goOn (o.add (literal 0x29)) else none
          | above :: more =>
            readMarks extended fuel rest count (above.add (group o.number o.whole) :: more)
        | .bar => goOn ⟨o.number, o.current :: o.finished, []⟩
        | .star => goOn (o.repeatLast 0 none 0x2A)
        | .plus => goOn (o.repeatLast 1 none 0x2B)
        | .optional => goOn (o.repeatLast 0 (some 1) 0x3F)
        | .openBounds =>
          match readBounds (if extended then [0x7D] else [0x5C, 0x7D]) rest with
          | some (least, most, rest) =>
            readMarks extended fuel rest count (o.repeatLast least most 0x7B :: outer)
          | none => if extended then goOn (o.add (literal 0x7B)) else none
        | .byte b => goOn (o.add (literal b))
        | .anyByte => goOn (o.add any)
        | .bracket =>
          match readBracket rest with
          | some (r, rest) => readMarks extended fuel rest count (o.add r :: outer)
          | none => none
        | .startAnchor =>
          if extended || o.pieces.isEmpty then goOn (o.add lineStart)
          else goOn (o.add (literal 0x5E))
        | .endAnchor =>
          let atEnd := match nextMark extended rest with
            | none => true
            | some (.closeGroup, _) => true
            | some (.bar, _) => true
            | _ => false
          if extended || atEnd then goOn (o.add lineEnd) else goOn (o.add (literal 0x24))
        | .back n => goOn (o.add (again n))

/-- Reads a pattern. -/
def parse? (extended : Bool) (pattern : Bytes) : Option Regex :=
  readMarks extended (pattern.length + 1) pattern 0 [⟨0, [], []⟩]

end Regex

end JobShell.Machine
