import JobShell.Machine.Tool.Basic

/-!
# Tools that only write

Texts, formats, numbers and waiting: tools that read no input.
-/

namespace JobShell.Machine.Tool

open Act

/-- Ends well. -/
def succeed : Tool := fun _ => return 0

/-- Ends badly. -/
def fail : Tool := fun _ => return 1

/-- The value of up to `most` digits of a base at the head of `cs`, and what follows them. -/
def escapedNumber (base most : Nat) (cs : List Char) : Option (Nat × List Char) :=
  let value (c : Char) : Option Nat :=
    let n := if c.isDigit then c.toNat - 48
      else if 'a' ≤ c ∧ c ≤ 'f' then c.toNat - 87
      else if 'A' ≤ c ∧ c ≤ 'F' then c.toNat - 55
      else 99
    if n < base then some n else none
  let digits := (cs.take most).map value |>.takeWhile Option.isSome
  if digits.isEmpty then
    none
  else
    some (digits.foldl (fun n d => base * n + d.getD 0) 0, cs.drop digits.length)

/-- The bytes of a text with its backslash escapes carried out, and whether one of them said that
nothing more is to be written. -/
def unescape (octalLead : Bool) : Nat → List Char → Bytes × Bool
  | 0, _ => ([], false)
  | _, [] => ([], false)
  | fuel + 1, '\\' :: c :: rest =>
    let simple := fun (b : UInt8) =>
      let (more, stop) := unescape octalLead fuel rest
      (b :: more, stop)
    match c with
    | 'n' => simple 0x0A
    | 't' => simple 0x09
    | 'r' => simple 0x0D
    | 'a' => simple 0x07
    | 'b' => simple 0x08
    | 'f' => simple 0x0C
    | 'v' => simple 0x0B
    | 'e' => simple 0x1B
    | '\\' => simple 0x5C
    | 'c' => ([], true)
    | _ =>
      let number := if c = '0' && octalLead then
          some ((escapedNumber 8 3 rest).getD (0, rest))
        else if c.isDigit && !octalLead then escapedNumber 8 3 (c :: rest)
        else if c = 'x' then escapedNumber 16 2 rest
        else none
      match number with
      | some (n, rest) =>
        let (more, stop) := unescape octalLead fuel rest
        (UInt8.ofNat n :: more, stop)
      | none =>
        let (more, stop) := unescape octalLead fuel rest
        (0x5C :: Text.utf8 [c] ++ more, stop)
  | fuel + 1, c :: rest =>
    let (more, stop) := unescape octalLead fuel rest
    (Text.utf8 [c] ++ more, stop)

/-- A text with its backslash escapes carried out. -/
def unescaped (octalLead : Bool) (s : String) : Bytes × Bool :=
  unescape octalLead (s.length + 1) s.toList

/-- The leading arguments that are options of `echo`, as letters, and the others. -/
def echoOptions : List String → List Char × List String
  | [] => ([], [])
  | a :: rest =>
    match a.toList with
    | '-' :: c :: cs =>
      if (c :: cs).all fun c => c = 'n' || c = 'e' || c = 'E' then
        let (letters, rest) := echoOptions rest
        (c :: cs ++ letters, rest)
      else
        ([], a :: rest)
    | _ => ([], a :: rest)

/-- Writes its arguments. -/
def echo : Tool := fun i => do
  let (letters, words) := echoOptions i.arguments
  let escapes := letters.foldl (fun on c => if c = 'e' then true else if c = 'E' then false else on)
    false
  let text := " ".intercalate words
  let (bytes, stop) := if escapes then unescaped true text else (Bytes.ofString text, false)
  print i (if stop || letters.contains 'n' then bytes else bytes ++ [Bytes.lineFeed])
  return 0

/-- A conversion of a format: its flags, width and precision, and its letter. -/
structure Conversion where
  left : Bool
  zero : Bool
  plus : Bool
  width : Nat
  precision : Option Nat
  letter : Char

/-- Reads a conversion behind its percent sign. -/
def readConversion (cs : List Char) : Option (Conversion × List Char) :=
  let flags := cs.takeWhile fun c => c = '-' || c = '0' || c = '+' || c = ' ' || c = '#'
  let cs := cs.drop flags.length
  let width := cs.takeWhile Char.isDigit
  let cs := cs.drop width.length
  let (precision, cs) := match cs with
    | '.' :: rest =>
      let digits := rest.takeWhile Char.isDigit
      (some (Pid.digitsValue digits), rest.drop digits.length)
    | _ => (none, cs)
  match cs with
  | letter :: rest =>
    some (⟨flags.contains '-', flags.contains '0', flags.contains '+', Pid.digitsValue width,
      precision, letter⟩, rest)
  | [] => none

/-- A text in the width of a conversion. -/
def Conversion.fill (c : Conversion) (s : String) : String :=
  if c.left then padRight c.width s
  else if c.zero && c.letter ≠ 's' && c.letter ≠ 'c' then
    let (sign, digits) := if s.startsWith "-" then ("-", (s.drop 1).toString) else ("", s)
    sign ++ String.ofList (List.replicate (c.width - s.length) '0') ++ digits
  else padLeft c.width s

/-- The value of a number argument: decimal, octal, hexadecimal, or the code of a quoted
character. -/
def numberArgument? (s : String) : Option Int :=
  match s.toList with
  | [] => some 0
  | '\'' :: c :: _ => some c.toNat
  | '"' :: c :: _ => some c.toNat
  | '0' :: 'x' :: cs =>
    match escapedNumber 16 cs.length cs with
    | some (n, []) => some n
    | _ => none
  | _ => integer? s

/-- Writes one conversion of an argument. -/
def Conversion.apply (c : Conversion) (argument : String) : Bytes × Bool × Bool :=
  let number := numberArgument? argument
  let value := number.getD 0
  match c.letter with
  | 's' =>
    let text := match c.precision with
      | some n => (argument.take n).toString
      | none => argument
    (Bytes.ofString (c.fill text), false, true)
  | 'b' =>
    let (bytes, stop) := unescaped true argument
    (bytes, stop, true)
  | 'c' => (Bytes.ofString (c.fill (argument.take 1).toString), false, true)
  | 'd' | 'i' | 'u' =>
    let text := toString value
    (Bytes.ofString (c.fill (if c.plus && 0 ≤ value then "+" ++ text else text)), false,
      number.isSome)
  | 'x' => (Bytes.ofString (c.fill (String.ofList (Nat.toDigits 16 value.toNat))), false,
      number.isSome)
  | 'X' => (Bytes.ofString (c.fill (String.ofList (Nat.toDigits 16 value.toNat)).toUpper), false,
      number.isSome)
  | 'o' => (Bytes.ofString (c.fill (String.ofList (Nat.toDigits 8 value.toNat))), false,
      number.isSome)
  | _ => ([], false, false)

/-- What formatting yields: the bytes, the arguments not used, whether to stop, and the arguments
that were no numbers. -/
structure Formatted where
  bytes : Bytes
  unused : List String
  stop : Bool
  wrong : List String

/-- Goes through a format once. -/
def formatOnce : Nat → List Char → List String → Formatted
  | 0, _, arguments => ⟨[], arguments, false, []⟩
  | _, [], arguments => ⟨[], arguments, false, []⟩
  | fuel + 1, '%' :: '%' :: rest, arguments =>
    let more := formatOnce fuel rest arguments
    { more with bytes := 0x25 :: more.bytes }
  | fuel + 1, '%' :: rest, arguments =>
    match readConversion rest with
    | none => ⟨[0x25], arguments, false, []⟩
    | some (c, rest) =>
      let argument := arguments.headD ""
      let (bytes, stop, good) := c.apply argument
      let wrong := if good then [] else [argument]
      if stop then
        ⟨bytes, [], true, wrong⟩
      else
        let more := formatOnce fuel rest arguments.tail
        { more with bytes := bytes ++ more.bytes, wrong := wrong ++ more.wrong }
  | fuel + 1, c :: rest, arguments =>
    let plain := (c :: rest).takeWhile (· ≠ '%')
    let (bytes, stop) := unescape false (plain.length + 1) plain
    if stop then
      ⟨bytes, [], true, []⟩
    else
      let more := formatOnce fuel ((c :: rest).drop plain.length) arguments
      { more with bytes := bytes ++ more.bytes }

/-- Goes through a format as long as there are arguments. -/
def format (pattern : List Char) : Nat → List String → Formatted
  | 0, arguments => ⟨[], arguments, false, []⟩
  | fuel + 1, arguments =>
    let once := formatOnce (pattern.length + 1) pattern arguments
    if once.stop || once.unused.isEmpty || once.unused.length = arguments.length then
      once
    else
      let more := format pattern fuel once.unused
      { more with bytes := once.bytes ++ more.bytes, wrong := once.wrong ++ more.wrong }

/-- Writes its arguments in a format. -/
def printf : Tool := fun i => do
  match i.arguments with
  | [] => refuse i 1 "missing operand"
  | pattern :: arguments =>
    let result := format pattern.toList (arguments.length + 1) arguments
    print i result.bytes
    for argument in result.wrong do
      warn i ("'" ++ argument ++ "': expected a numeric value")
    return codeOf result.wrong.isEmpty

/-- The numbers from `first` on in steps, up to `last`. -/
def countUp (first step last : Int) : List Int :=
  if step = 0 then
    []
  else
    let distance := if 0 < step then last - first else first - last
    if distance < 0 then
      []
    else
      (List.range (distance / step.natAbs).toNat.succ).map fun (k : Nat) => first + step * (k : Int)

/-- Writes a sequence of numbers. -/
def seq : Tool := fun i => do
  let p ← match i.arguments with
    | "-s" :: separator :: rest => pure (separator, false, rest)
    | "-w" :: rest => pure ("\n", true, rest)
    | rest => pure ("\n", false, rest)
  let (separator, equalWidth, operands) := p
  let number := fun (s : String) => do
    match integer? s with
    | some n => return n
    | none => refuse i 1 ("invalid floating point argument: '" ++ s ++ "'")
  let numbers ← match operands with
    | [] => refuse i 1 "missing operand"
    | [last] => do
      let last ← number last
      pure (countUp 1 1 last)
    | [first, last] => do
      let first ← number first
      let last ← number last
      pure (countUp first 1 last)
    | [first, step, last] => do
      let first ← number first
      let step ← number step
      let last ← number last
      if step = 0 then
        refuse i 1 "invalid Zero increment value: '0'"
      pure (countUp first step last)
    | _ :: _ :: _ :: extra :: _ => refuse i 1 ("extra operand '" ++ extra ++ "'")
  let texts := numbers.map toString
  let width := (texts.map String.length).foldl max 0
  let texts := if equalWidth then
      texts.map (Conversion.fill ⟨false, true, false, width, none, 'd'⟩)
    else texts
  unless texts.isEmpty do
    printText i (separator.intercalate texts ++ "\n")
  return 0

/-- Writes a line for ever. -/
def yes : Tool := fun i => do
  let line := (if i.arguments.isEmpty then "y" else " ".intercalate i.arguments) ++ "\n"
  let block := (List.replicate (1024 / line.length + 1) (Bytes.ofString line)).flatten
  loop () fun () => do
    print i block
    return .inl ()

/-- The microseconds that a duration stands for. -/
def duration? (s : String) : Option Nat :=
  let (cs, factor) := match s.toList.getLast? with
    | some 's' => (s.toList.dropLast, 1)
    | some 'm' => (s.toList.dropLast, 60)
    | some 'h' => (s.toList.dropLast, 3600)
    | some 'd' => (s.toList.dropLast, 86400)
    | _ => (s.toList, 1)
  let whole := cs.takeWhile (· ≠ '.')
  let fraction := (cs.dropWhile (· ≠ '.')).drop 1
  if (whole ++ fraction).isEmpty || !(whole ++ fraction).all Char.isDigit then
    none
  else
    let micros := Pid.digitsValue ((fraction ++ List.replicate 6 '0').take 6)
    some ((Pid.digitsValue whole * 1000000 + micros) * factor)

/-- Waits for the durations given. -/
def sleep : Tool := fun i => do
  if i.arguments.isEmpty then
    refuse i 1 "missing operand"
  let mut total := 0
  let mut good := true
  for a in i.arguments do
    match duration? a with
    | some d => total := total + d
    | none =>
      warn i ("invalid time interval '" ++ a ++ "'")
      good := false
  if good then
    sys (.sleep total)
    return 0
  else
    complain ("Try '" ++ i.name ++ " --help' for more information.")
    return 1

/-- Writes the working directory. -/
def pwd : Tool := fun i => do
  match ← sys .currentDirectory with
  | .ok path =>
    printText i (path ++ "\n")
    return 0
  | .error e =>
    warn i ("couldn't find directory entry in '..' with matching i-node: " ++ e.wording)
    return 1

/-- The part of a path behind its last slash. -/
def baseName (path : String) : String :=
  let cs := Text.dropTrailing (· = '/') path.toList
  if cs.isEmpty then
    if path.isEmpty then "" else "/"
  else
    String.ofList (cs.reverse.takeWhile (· ≠ '/')).reverse

/-- The part of a path before its last slash. -/
def directoryName (path : String) : String :=
  let cs := Text.dropTrailing (· = '/') path.toList
  let above := Text.dropTrailing (· ≠ '/') cs
  if above.isEmpty then
    if path.startsWith "/" then "/" else "."
  else
    let above := Text.dropTrailing (· = '/') above
    if above.isEmpty then "/" else String.ofList above

/-- Writes the last part of a path. -/
def basename : Tool := fun i => do
  match i.arguments with
  | [] => refuse i 1 "missing operand"
  | path :: ending =>
    let name := baseName path
    let name := match ending with
      | e :: _ => if name.endsWith e && name ≠ e then (name.dropEnd e.length).toString else name
      | [] => name
    printText i (name ++ "\n")
    return 0

/-- Writes a path without its last part. -/
def dirname : Tool := fun i => do
  if i.arguments.isEmpty then
    refuse i 1 "missing operand"
  for path in i.arguments do
    printText i (directoryName path ++ "\n")
  return 0

/-- Writes variables of the environment. -/
def printenv : Tool := fun i => do
  match i.arguments with
  | [] =>
    for (name, value) in i.environment do
      printText i (name ++ "=" ++ value ++ "\n")
    return 0
  | names =>
    let mut good := true
    for name in names do
      match i.environment.lookup name with
      | some value => printText i (value ++ "\n")
      | none => good := false
    return codeOf good

end JobShell.Machine.Tool
