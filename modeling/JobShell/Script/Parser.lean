import JobShell.Script.Reader

/-!
# Reading scripts: statements

Tokens are put together to statements. A script is read one complete line at a time, so that an
error further down does not keep the lines before it from being carried out.
-/

namespace JobShell.Script

/-- Why a script cannot be read. -/
structure Problem where
  message : String
  line : Nat
  deriving Repr

/-- A reading of tokens. -/
abbrev Parse (α : Type) : Type := StateT (List Placed) (Except Problem) α

namespace Parse

/-- The next token, if there is one. -/
def peek : Parse (Option Token) := do return (← get).head?.map (·.token)

/-- The number of the line that is being read. -/
def line : Parse Nat := do return ((← get).head?.map (·.line)).getD 1

/-- Goes on behind the next token. -/
def advance : Parse Unit := modify List.tail

/-- The words that have a meaning at the beginning of a statement. -/
def reserved : List String :=
  ["!", "if", "then", "elif", "else", "fi", "while", "until", "do", "done", "for", "in", "case",
   "esac", "\x7b", "\x7d"]

/-- A token as a complaint names it. -/
def describe : Option Token → String
  | none => "end of file"
  | some .lineEnd => "newline"
  | some (.operator text _) =>
    if text.startsWith "<" || text.startsWith ">" then "redirection" else "\"" ++ text ++ "\""
  | some (.word _ (some text)) => if reserved.contains text then "\"" ++ text ++ "\"" else "word"
  | some (.word _ none) => "word"
  | some (.fault message) => message

/-- Complains about the next token. -/
def unexpected {α : Type} (wanted : Option String) : Parse α := do
  let message := match ← peek with
    | some (.fault message) => message
    | token => describe token ++ " unexpected" ++ match wanted with
      | some w => " (expecting \"" ++ w ++ "\")"
      | none => ""
  throw ⟨message, ← line⟩

/-- Whether the next token is an operator. -/
def atOperator (text : String) : Parse Bool := do
  match ← peek with
  | some (.operator t _) => return t = text
  | _ => return false

/-- Whether the next token is a bare word. -/
def atWord (text : String) : Parse Bool := do
  match ← peek with
  | some (.word _ (some t)) => return t = text
  | _ => return false

/-- Whether the next token is one of some bare words. -/
def atWords (texts : List String) : Parse Bool := do
  match ← peek with
  | some (.word _ (some t)) => return texts.contains t
  | _ => return false

/-- Goes on behind a bare word, which must come next. -/
def expectWord (text : String) : Parse Unit := do
  if ← atWord text then advance else unexpected (some text)

/-- Goes on behind an operator, which must come next. -/
def expectOperator (text : String) : Parse Unit := do
  if ← atOperator text then advance else unexpected (some text)

/-- Goes on behind line ends. -/
def skipLineEnds : Parse Unit := modify fun ts => ts.dropWhile fun t =>
  match t.token with
  | .lineEnd => true
  | _ => false

/-- What a redirection operator does, and the descriptor that it is for. -/
def redirectOf? : String → Option (Redirect × Nat)
  | "<" => some (.input, 0)
  | ">" => some (.output, 1)
  | ">|" => some (.output, 1)
  | ">>" => some (.append, 1)
  | "<>" => some (.update, 0)
  | ">&" => some (.duplicate, 1)
  | "<&" => some (.duplicate, 0)
  | "<<" => some (.text, 0)
  | _ => none

/-- Reads a redirection, if one comes next. -/
def redirection? : Parse (Option Redirection) := do
  match ← peek with
  | some (.operator text fd) =>
    match redirectOf? text with
    | none => return none
    | some (how, standard) =>
      advance
      match ← peek with
      | some (.word target _) =>
        advance
        return some ⟨fd.getD standard, how, target⟩
      | _ => unexpected none
  | _ => return none

/-- Reads all redirections that come next. -/
def redirections : Nat → Parse (List Redirection)
  | 0 => return []
  | fuel + 1 => do
    match ← redirection? with
    | none => return []
    | some r => return r :: (← redirections fuel)

/-- The variable and the value of a word that is an assignment. -/
def assignment? (word : Word) : Option (String × Word) :=
  let texts := word.takeWhile fun (part : Part) =>
    match part with
    | .literal _ false => true
    | _ => false
  let text := texts.flatMap fun (part : Part) =>
    match part with
    | .literal t _ => t.toList
    | _ => []
  let name := text.takeWhile Reader.isNameChar
  match name, text.drop name.length with
  | c :: _, '=' :: value =>
    if Reader.isNameStart c then
      some (String.ofList name, .literal (String.ofList value) false :: word.drop texts.length)
    else
      none
  | _, _ => none

/-- Reads the words and redirections of a simple statement. -/
def simpleParts : Nat → Bool → Parse (List (String × Word) × List Word × List Redirection)
  | 0, _ => return ([], [], [])
  | fuel + 1, leading => do
    match ← redirection? with
    | some r =>
      let (assignments, words, rs) ← simpleParts fuel leading
      return (assignments, words, r :: rs)
    | none =>
      match ← peek with
      | some (.word word _) =>
        advance
        match assignment? word, leading with
        | some a, true =>
          let (assignments, words, rs) ← simpleParts fuel true
          return (a :: assignments, words, rs)
        | _, _ =>
          let (assignments, words, rs) ← simpleParts fuel false
          return (assignments, word :: words, rs)
      | _ => return ([], [], [])

/-- Reads a simple statement, which must not be empty. -/
def simple (fuel : Nat) : Parse Statement := do
  let n ← line
  let (assignments, words, rs) ← simpleParts fuel true
  if assignments.isEmpty && words.isEmpty && rs.isEmpty then
    unexpected none
  else
    return .simple n assignments words rs

/-- Reads words up to something else. -/
def words : Nat → Parse (List Word)
  | 0 => return []
  | fuel + 1 => do
    match ← peek with
    | some (.word word _) =>
      advance
      return word :: (← words fuel)
    | _ => return []

/-- Reads a name. -/
def name (complaint : String) : Parse String := do
  match ← peek with
  | some (.word _ (some text)) =>
    if text.toList.all Reader.isNameChar && text.toList.head?.any Reader.isNameStart then
      advance
      return text
    else
      throw ⟨complaint, ← line⟩
  | _ => throw ⟨complaint, ← line⟩

/-- Whether a function is defined next: a name, and an empty pair of parentheses. -/
def atFunction : Parse (Option String) := do
  let tokens : List Token := (← get).map (·.token)
  match tokens with
  | .word _ (some text) :: .operator "(" _ :: .operator ")" _ :: _ => return some text
  | _ => return none

mutual

/-- Reads statements up to one of some words, or a closing operator; there must be one. -/
def list (fuel : Nat) (stops : List String) : Parse Statement :=
  match fuel with
  | 0 => unexpected none
  | fuel + 1 => do
    skipLineEnds
    let first ← andOr fuel
    match ← peek with
    | some (.operator "&" _) =>
      advance
      more fuel stops (.background first)
    | some (.operator ";" _) | some .lineEnd =>
      advance
      more fuel stops first
    | _ => return first

/-- Reads the statements behind a first one. -/
def more (fuel : Nat) (stops : List String) (first : Statement) : Parse Statement :=
  match fuel with
  | 0 => return first
  | fuel + 1 => do
    skipLineEnds
    match ← peek with
    | none => return first
    | some (.operator ")" _) | some (.operator ";;" _) => return first
    | _ =>
      if ← atWords stops then return first
      else return .sequence first (← list fuel stops)

/-- Reads pipelines joined by conditions. -/
def andOr (fuel : Nat) : Parse Statement :=
  match fuel with
  | 0 => unexpected none
  | fuel + 1 => do moreAndOr fuel (← pipeline fuel)

/-- Reads the pipelines behind a first one. -/
def moreAndOr (fuel : Nat) (first : Statement) : Parse Statement :=
  match fuel with
  | 0 => return first
  | fuel + 1 => do
    match ← peek with
    | some (.operator "&&" _) =>
      advance
      skipLineEnds
      moreAndOr fuel (.both first (← pipeline fuel))
    | some (.operator "||" _) =>
      advance
      skipLineEnds
      moreAndOr fuel (.either first (← pipeline fuel))
    | _ => return first

/-- Reads statements joined by pipes. -/
def pipeline (fuel : Nat) : Parse Statement :=
  match fuel with
  | 0 => unexpected none
  | fuel + 1 => do
    let negated ← atWord "!"
    if negated then advance
    let first ← statement fuel
    let members ← moreMembers fuel
    if members.isEmpty && !negated then return first
    else return .pipeline negated (first :: members)

/-- Reads the further members of a pipeline. -/
def moreMembers (fuel : Nat) : Parse (List Statement) :=
  match fuel with
  | 0 => return []
  | fuel + 1 => do
    if ← atOperator "|" then
      advance
      skipLineEnds
      let member ← statement fuel
      return member :: (← moreMembers fuel)
    else
      return []

/-- Reads a list between two words, and its redirections. -/
def enclosed (fuel : Nat) (opening closing : String) : Parse Statement :=
  match fuel with
  | 0 => unexpected none
  | fuel + 1 => do
    expectWord opening
    let body ← list fuel [closing]
    expectWord closing
    return body

/-- Reads what follows the test of a condition. -/
def conditionalTail (fuel : Nat) : Parse (Statement × Statement × Option Statement) :=
  match fuel with
  | 0 => unexpected none
  | fuel + 1 => do
    let test ← list fuel ["then"]
    expectWord "then"
    let body ← list fuel ["elif", "else", "fi"]
    if ← atWord "elif" then
      advance
      let (innerTest, innerBody, innerElse) ← conditionalTail fuel
      return (test, body, some (.conditional innerTest innerBody innerElse []))
    else if ← atWord "else" then
      advance
      let otherwise ← list fuel ["fi"]
      return (test, body, some otherwise)
    else
      return (test, body, none)

/-- Reads the branches of a choice. -/
def branches (fuel : Nat) : Parse (List (List Word × Option Statement)) :=
  match fuel with
  | 0 => return []
  | fuel + 1 => do
    skipLineEnds
    if ← atWord "esac" then
      return []
    else
      if ← atOperator "(" then advance
      let patterns ← alternatives fuel
      expectOperator ")"
      skipLineEnds
      let empty ← if ← atOperator ";;" then pure true else atWord "esac"
      let body ← if empty then pure none else some <$> list fuel ["esac"]
      if ← atOperator ";;" then
        advance
        return (patterns, body) :: (← branches fuel)
      else
        return [(patterns, body)]

/-- Reads patterns separated by bars. -/
def alternatives (fuel : Nat) : Parse (List Word) :=
  match fuel with
  | 0 => return []
  | fuel + 1 => do
    match ← peek with
    | some (.word word _) =>
      advance
      if ← atOperator "|" then
        advance
        return word :: (← alternatives fuel)
      else
        return [word]
    | _ => unexpected none

/-- Reads one statement. -/
def statement (fuel : Nat) : Parse Statement :=
  match fuel with
  | 0 => unexpected none
  | fuel + 1 => do
    if let some name ← atFunction then
      advance
      advance
      advance
      skipLineEnds
      return .function name (← statement fuel)
    match ← peek with
    | some (.operator "(" _) =>
      advance
      let body ← list fuel []
      expectOperator ")"
      return .group true body (← redirections fuel)
    | some (.word _ (some "\x7b")) =>
      let body ← enclosed fuel "\x7b" "\x7d"
      return .group false body (← redirections fuel)
    | some (.word _ (some "if")) =>
      advance
      let (test, body, otherwise) ← conditionalTail fuel
      expectWord "fi"
      return .conditional test body otherwise (← redirections fuel)
    | some (.word _ (some "while")) | some (.word _ (some "until")) =>
      let whileFails ← atWord "until"
      advance
      let test ← list fuel ["do"]
      let body ← enclosed fuel "do" "done"
      return .repetition whileFails test body (← redirections fuel)
    | some (.word _ (some "for")) =>
      advance
      let loopName ← name "Bad for loop variable"
      let values ← if ← atWord "in" then do
          advance
          some <$> words fuel
        else
          pure none
      if ← atOperator ";" then advance
      skipLineEnds
      let body ← enclosed fuel "do" "done"
      return .each loopName values body (← redirections fuel)
    | some (.word _ (some "case")) =>
      advance
      match ← peek with
      | some (.word word _) =>
        advance
        skipLineEnds
        expectWord "in"
        let found ← branches fuel
        expectWord "esac"
        return .choice word found (← redirections fuel)
      | _ => unexpected none
    | some (.word _ (some text)) =>
      if reserved.contains text then unexpected none else simple fuel
    | _ => simple fuel

end

/-- Reads the statements of one complete line. -/
def completeLine (fuel : Nat) : Nat → Parse Statement
  | 0 => unexpected none
  | steps + 1 => do
    let first ← andOr fuel
    let goOn := fun (first : Statement) => do
      match ← peek with
      | none => return first
      | some .lineEnd =>
        advance
        return first
      | _ => return .sequence first (← completeLine fuel steps)
    match ← peek with
    | none => return first
    | some .lineEnd =>
      advance
      return first
    | some (.operator "&" _) =>
      advance
      goOn (.background first)
    | some (.operator ";" _) =>
      advance
      goOn first
    | _ => unexpected none

end Parse

/-- Reads the first complete line with statements on it, and what follows; nothing if there are no
more statements. -/
def nextLine? (tokens : List Placed) : Except Problem (Option (Statement × List Placed)) :=
  let (_, tokens) := (Parse.skipLineEnds.run tokens).toOption.getD ((), tokens)
  if tokens.isEmpty then
    .ok none
  else
    let fuel := 8 * tokens.length + 16
    ((Parse.completeLine fuel (tokens.length + 1)).run tokens).map some

end JobShell.Script
