import JobShell.Script.Grammar
import JobShell.Pid

/-!
# Reading scripts: tokens

A script is cut into words, operators and line ends. What cannot be read becomes a token too, so
that the statements before it can still be carried out.
-/

namespace JobShell.Script

/-- What a script is made of. -/
inductive Token where
  /-- A word. `bare` is its text if nothing in it is quoted or stands for something else. -/
  | word (parts : Word) (bare : Option String)
  /-- An operator, with the descriptor that was written before it. -/
  | operator (text : String) (fd : Option Nat)
  | lineEnd
  /-- Something that cannot be read. -/
  | fault (message : String)
  deriving Inhabited

/-- A token and the number of its line. -/
structure Placed where
  token : Token
  line : Nat
  deriving Inhabited

namespace Reader

/-- The operators, longer ones before those that they begin with. -/
def operators : List String :=
  ["&&", "||", ";;", ">>", ">&", "<<-", "<<", "<&", "<>", ">|", "&", "|", ";", "<", ">", "(", ")"]

/-- The characters that end a bare word. -/
def isBreak (c : Char) : Bool := " \t\n;&|<>()".toList.contains c

/-- Whether a character may stand in a name. -/
def isNameChar (c : Char) : Bool := c.isAlphanum || c = '_'

/-- Whether a character may begin a name. -/
def isNameStart (c : Char) : Bool := c.isAlpha || c = '_'

/-- Whether a character is the name of a special variable. -/
def isSpecial (c : Char) : Bool := "@*#?-$!0123456789".toList.contains c

/-- The text up to the quote that ends it, and what follows that. -/
def untilQuote (quote : Char) : List Char → Option (List Char × List Char)
  | [] => none
  | c :: rest =>
    if c = quote then some ([], rest)
    else (untilQuote quote rest).map fun (text, rest) => (c :: text, rest)

/-- The text up to the bracket that closes it, and what follows that; brackets in quotes do not
count. -/
def untilClosed (opening closing : Char) :
    Nat → Nat → List Char → Option (List Char × List Char)
  | 0, _, _ => none
  | _, _, [] => none
  | fuel + 1, depth, c :: rest =>
    let keep := fun (taken : List Char) (depth : Nat) (rest : List Char) =>
      (untilClosed opening closing fuel depth rest).map fun (text, rest) => (taken ++ text, rest)
    if c = closing then
      if depth = 0 then some ([], rest) else keep [c] (depth - 1) rest
    else if c = opening then
      keep [c] (depth + 1) rest
    else
      match c, rest with
      | '\\', d :: rest => keep [c, d] depth rest
      | '\'', _ =>
        (untilQuote '\'' rest).bind fun (text, rest) => keep ([c] ++ text ++ [c]) depth rest
      | _, _ => keep [c] depth rest

/-- The text between backquotes, in which backslashes have been taken away. -/
def untilBackquote : List Char → Option (List Char × List Char)
  | [] => none
  | '`' :: rest => some ([], rest)
  | '\\' :: c :: rest =>
    (untilBackquote rest).map fun (text, rest) =>
      (if c = '`' || c = '\\' || c = '$' then c :: text else '\\' :: c :: text, rest)
  | c :: rest => (untilBackquote rest).map fun (text, rest) => (c :: text, rest)

mutual

/-- What a brace expression does with its variable. -/
def treatment (fuel : Nat) (quoted : Bool) (cs : List Char) : Option Treatment :=
  match fuel with
  | 0 => none
  | fuel + 1 =>
    let word := fun (cs : List Char) => (parts fuel quoted true cs).map Prod.fst
    match cs with
    | [] => some .plain
    | ':' :: '-' :: rest => (word rest).map (.instead true)
    | ':' :: '=' :: rest => (word rest).map (.assign true)
    | ':' :: '+' :: rest => (word rest).map (.whenSet true)
    | ':' :: '?' :: rest => (word rest).map (.demand true)
    | '?' :: rest => (word rest).map (.demand false)
    | '-' :: rest => (word rest).map (.instead false)
    | '=' :: rest => (word rest).map (.assign false)
    | '+' :: rest => (word rest).map (.whenSet false)
    | '#' :: '#' :: rest => (word rest).map (.trim false true)
    | '#' :: rest => (word rest).map (.trim false false)
    | '%' :: '%' :: rest => (word rest).map (.trim true true)
    | '%' :: rest => (word rest).map (.trim true false)
    | _ => none

/-- What stands between the braces of a brace expression. -/
def braced (fuel : Nat) (quoted : Bool) (cs : List Char) : Option Part :=
  match fuel with
  | 0 => none
  | fuel + 1 =>
    let nameOf := fun (cs : List Char) =>
      match cs with
      | c :: rest =>
        if isNameStart c then some ((c :: rest).takeWhile isNameChar)
        else if c.isDigit then some ((c :: rest).takeWhile Char.isDigit)
        else if isSpecial c then some [c]
        else none
      | [] => none
    match cs with
    | '#' :: rest =>
      if rest.isEmpty then
        some (.parameter "#" .plain quoted)
      else
        (nameOf rest).bind fun name =>
          if name.length = rest.length then
            some (.parameter (String.ofList name) .length quoted)
          else
            none
    | _ => (nameOf cs).bind fun name =>
      (treatment fuel quoted (cs.drop name.length)).map fun t =>
        .parameter (String.ofList name) t quoted

/-- The part behind a dollar sign, and what follows it. -/
def dollar (fuel : Nat) (quoted : Bool) (cs : List Char) : Option (Part × List Char) :=
  match fuel with
  | 0 => none
  | fuel + 1 =>
    match cs with
    | '(' :: '(' :: rest =>
      match untilClosed '(' ')' (rest.length + 1) 0 rest with
      | some (text, ')' :: rest) => some (.arithmetic (String.ofList text) quoted, rest)
      | _ => none
    | '(' :: rest =>
      (untilClosed '(' ')' (rest.length + 1) 0 rest).map fun (text, rest) =>
        (.output (String.ofList text) quoted, rest)
    | '{' :: rest =>
      (untilClosed '{' '}' (rest.length + 1) 0 rest).bind fun (text, rest) =>
        (braced fuel quoted text).map (·, rest)
    | c :: rest =>
      if isNameStart c then
        let name := cs.takeWhile isNameChar
        some (.parameter (String.ofList name) .plain quoted, cs.drop name.length)
      else if isSpecial c then
        some (.parameter (String.singleton c) .plain quoted, rest)
      else
        some (.literal "$" quoted, cs)
    | [] => some (.literal "$" quoted, [])

/-- The parts of a word, and what follows it. With `quoted` the parts stand in double quotes, which
end them unless `whole` says that everything belongs to the word. -/
def parts (fuel : Nat) (quoted whole : Bool) (cs : List Char) : Option (Word × List Char) :=
  match fuel with
  | 0 => none
  | fuel + 1 =>
    let followed := fun (part : Part) (rest : List Char) =>
      (parts fuel quoted whole rest).map fun (more, rest) => (part :: more, rest)
    match cs with
    | [] => if quoted && !whole then none else some ([], [])
    | '"' :: rest =>
      if quoted then
        if whole then followed (.literal "" true) rest else some ([], rest)
      else
        (parts fuel true false rest).bind fun (inner, rest) =>
          (parts fuel quoted whole rest).map fun (more, rest) =>
            ((if inner.isEmpty then [.literal "" true] else inner) ++ more, rest)
    | '\\' :: c :: rest =>
      if c = '\n' then parts fuel quoted whole rest
      else if !quoted || c = '$' || c = '"' || c = '`' || c = '\\' then
        followed (.literal (String.singleton c) true) rest
      else
        followed (.literal (String.ofList ['\\', c]) true) rest
    | '$' :: rest => (dollar fuel quoted rest).bind fun (part, rest) => followed part rest
    | '`' :: rest =>
      (untilBackquote rest).bind fun (text, rest) =>
        followed (.output (String.ofList text) quoted) rest
    | c :: rest =>
      if c = '\'' && !quoted then
        (untilQuote '\'' rest).bind fun (text, rest) =>
          followed (.literal (String.ofList text) true) rest
      else if isBreak c && !quoted && !whole then
        some ([], cs)
      else
        followed (.literal (String.singleton c) quoted) rest

end

/-- The text of a word in which nothing is quoted or stands for something else. -/
def bareText? (word : Word) : Option String :=
  (word.mapM fun (part : Part) =>
    match part with
    | .literal text false => some text
    | _ => none).map String.join

/-- How many line ends there are. -/
def lineEnds (cs : List Char) : Nat := cs.count '\n'

/-- The complaint about a quote without an end. -/
def unterminated : String := "Unterminated quoted string"

/-- The lines up to one that is the delimiter, and what follows that. With `stripped`, tabs at the
beginning of a line do not count. -/
def untilDelimiter (delimiter : List Char) (stripped : Bool) :
    Nat → List Char → List Char × List Char
  | 0, cs => ([], cs)
  | _, [] => ([], [])
  | fuel + 1, cs =>
    let line := cs.takeWhile (· ≠ '\n')
    let rest := (cs.drop line.length).drop 1
    let line := if stripped then line.dropWhile (· = '\t') else line
    if line = delimiter then
      ([], rest)
    else
      let (more, rest) := untilDelimiter delimiter stripped fuel rest
      (line ++ '\n' :: more, rest)

/-- The text of a word whose quotes have been taken away, and whether there were any. -/
def delimiterOf (word : Word) : String × Bool :=
  word.foldl (fun (s, quoted) (part : Part) =>
    match part with
    | .literal text q => (s ++ text, quoted || q)
    | _ => (s, quoted)) ("", false)

/-- The word that stands for a text in a script, and the script without that text: it follows the
line on which its delimiter is named. Also says how many lines it takes. -/
def hereText (stripped : Bool) (cs : List Char) : Option (Word × List Char × Nat) :=
  let cs := cs.dropWhile fun c => c = ' ' || c = '\t'
  (parts (cs.length + 1) false false cs).bind fun (word, rest) =>
    let (delimiter, quoted) := delimiterOf word
    let line := rest.takeWhile (· ≠ '\n')
    let below := (rest.drop line.length).drop 1
    let (text, behind) := untilDelimiter delimiter.toList stripped (below.length + 1) below
    let content := if quoted then some [.literal (String.ofList text) true]
      else (parts (2 * text.length + 4) true true text).map Prod.fst
    content.map fun content => (content, line ++ '\n' :: behind, lineEnds text + 1)

/-- Cuts a script into tokens. A word of digits directly before a redirection names its
descriptor. `passed` lines of the current one have been read already. -/
def tokens : Nat → Nat → Nat → List Char → List Placed
  | 0, _, _, _ => []
  | _, _, _, [] => []
  | fuel + 1, line, passed, c :: rest =>
    if c = ' ' || c = '\t' then
      tokens fuel line passed rest
    else if c = '\n' then
      ⟨.lineEnd, line⟩ :: tokens fuel (line + 1 + passed) 0 rest
    else if c = '#' then
      tokens fuel line passed (rest.dropWhile (· ≠ '\n'))
    else if c = '\\' && rest.head? = some '\n' then
      tokens fuel (line + 1) passed rest.tail
    else
      let cs := c :: rest
      let digits := cs.takeWhile Char.isDigit
      let behind := cs.drop digits.length
      let fd := match behind with
        | '<' :: _ | '>' :: _ => Pid.digits? digits
        | _ => none
      let start := if fd.isSome then behind else cs
      match operators.find? fun o => o.toList.isPrefixOf start with
      | some o =>
        let rest := start.drop o.length
        if o = "<<" || o = "<<-" then
          match hereText (o = "<<-") rest with
          | none => [⟨.fault unterminated, line⟩]
          | some (content, rest, lines) =>
            ⟨.operator "<<" fd, line⟩ :: ⟨.word content none, line⟩
              :: tokens fuel line (passed + lines) rest
        else
          ⟨.operator o fd, line⟩ :: tokens fuel line passed rest
      | none =>
        match parts (cs.length + 1) false false cs with
        | none => [⟨.fault unterminated, line⟩]
        | some (word, rest) =>
          let taken := cs.take (cs.length - rest.length)
          ⟨.word word (bareText? word), line⟩ :: tokens fuel (line + lineEnds taken) passed rest

end Reader

/-- The tokens of a script that begins on a line. -/
def tokensOf (line : Nat) (source : String) : List Placed :=
  Reader.tokens (source.length + 1) line 0 source.toList

end JobShell.Script
