/-!
# Arithmetic

The expressions whose values stand in words: whole numbers of 64 bits, variables, and the usual
operators with the usual ranks. A variable that is given a value inside of an expression has that
value in the rest of it; a part whose value is not needed gives none.
-/

namespace JobShell.Script.Arithmetic

/-- What an expression is made of. -/
inductive Token where
  | number (n : Int64)
  | name (s : String)
  | operator (s : String)
  /-- A character that has no meaning here. -/
  | stray
  deriving DecidableEq, Repr

/-- Why an expression has no value. -/
inductive Fault where
  /-- Something else should have stood there. -/
  | expected (what : String)
  | divisionByZero
  /-- A variable that is no number. -/
  | illegalNumber (value : String)
  deriving DecidableEq, Repr

/-- The complaint about an expression. -/
def Fault.message (source : String) : Fault → String
  | expected what => "arithmetic expression: expecting " ++ what ++ ": \"" ++ source ++ "\""
  | divisionByZero => "arithmetic expression: division by zero: \"" ++ source ++ "\""
  | illegalNumber value => "Illegal number: " ++ value

/-! ## Numbers -/

/-- The value of a digit; letters go on where the decimal digits end. -/
def digitValue? (c : Char) : Option Nat :=
  if c.isDigit then some (c.toNat - '0'.toNat)
  else if 'a' ≤ c ∧ c ≤ 'f' then some (c.toNat - 'a'.toNat + 10)
  else if 'A' ≤ c ∧ c ≤ 'F' then some (c.toNat - 'A'.toNat + 10)
  else none

/-- Whether a character is a digit of a number with a base. -/
def isDigitOf (base : Nat) (c : Char) : Bool := (digitValue? c).any (· < base)

/-- The base of a number, and the number without the mark of the base. -/
def baseOf : List Char → Nat × List Char
  | '0' :: x :: d :: rest =>
    if (x = 'x' || x = 'X') && isDigitOf 16 d then (16, d :: rest) else (8, '0' :: x :: d :: rest)
  | '0' :: rest => (8, '0' :: rest)
  | cs => (10, cs)

/-- The number at the beginning of `cs`, and what stands behind it. -/
def numberAt (cs : List Char) : Nat × List Char :=
  let (base, cs) := baseOf cs
  let digits := cs.takeWhile (isDigitOf base)
  (digits.foldl (fun n c => base * n + (digitValue? c).getD 0) 0, cs.drop digits.length)

/-- The greatest number. -/
def greatest : Nat := Int64.maxValue.toInt.toNat

/-- Whether a character may stand around the number in a variable. -/
def isSpace (c : Char) : Bool := c = ' ' || ('\t' ≤ c && c ≤ '\r')

/-- The value of a variable that holds `s`. -/
def valueOfText (s : String) : Except Fault Int64 :=
  let cs := s.toList.dropWhile isSpace
  let (negative, cs) := match cs with
    | '-' :: cs => (true, cs)
    | '+' :: cs => (false, cs)
    | cs => (false, cs)
  let (n, rest) := numberAt cs
  if !rest.all isSpace || (greatest < n && !(negative && n = greatest + 1)) then
    .error (.illegalNumber s)
  else
    .ok (Int64.ofInt (if negative then -Int.ofNat n else Int.ofNat n))

/-! ## Tokens -/

/-- The operators between two values, with their ranks; those of a higher rank go first. -/
def ranks : List (String × Nat) :=
  [("||", 1), ("&&", 2), ("|", 3), ("^", 4), ("&", 5), ("==", 6), ("!=", 6), ("<=", 7), (">=", 7),
   ("<", 7), (">", 7), ("<<", 8), (">>", 8), ("+", 9), ("-", 9), ("*", 10), ("/", 10), ("%", 10)]

/-- The operators that give a variable a value, with the operator that goes before that. -/
def assignments : List (String × Option String) :=
  [("=", none), ("+=", some "+"), ("-=", some "-"), ("*=", some "*"), ("/=", some "/"),
   ("%=", some "%"), ("<<=", some "<<"), (">>=", some ">>"), ("&=", some "&"), ("|=", some "|"),
   ("^=", some "^")]

/-- The operators as they are looked for, longer ones first. -/
def operators : List String :=
  ["<<=", ">>=", "||", "&&", "==", "!=", "<=", ">=", "<<", ">>", "+=", "-=", "*=", "/=", "%=",
   "&=", "|=", "^=", "|", "^", "&", "<", ">", "+", "-", "*", "/", "%", "!", "~", "(", ")", "=",
   "?", ":"]

/-- The token at the beginning of `c :: rest`, if it is no blank, and what stands behind it. -/
def tokenAt (c : Char) (rest : List Char) : Option Token × List Char :=
  let cs := c :: rest
  if c = ' ' || c = '\t' || c = '\n' then
    (none, rest)
  else if c.isDigit then
    let (n, rest) := numberAt cs
    (some (.number (Int64.ofNat (min n greatest))), rest)
  else if c.isAlpha || c = '_' then
    let name := cs.takeWhile fun c => c.isAlphanum || c = '_'
    (some (.name (String.ofList name)), cs.drop name.length)
  else
    match operators.find? fun o => o.toList.isPrefixOf cs with
    | some o => (some (.operator o), cs.drop o.length)
    | none => (some .stray, rest)

/-- Cuts an expression into tokens. -/
def tokens : Nat → List Char → List Token
  | 0, _ => []
  | _, [] => []
  | fuel + 1, c :: rest =>
    let (token, rest) := tokenAt c rest
    token.toList ++ tokens fuel rest

/-! ## Values -/

/-- The number that stands for a truth value. -/
def ofBool (b : Bool) : Int64 := if b then 1 else 0

/-- The value of an operator. -/
def apply (operator : String) (a b : Int64) : Except Fault Int64 :=
  match operator with
  | "||" => .ok (ofBool (a ≠ 0 || b ≠ 0))
  | "&&" => .ok (ofBool (a ≠ 0 && b ≠ 0))
  | "|" => .ok (a ||| b)
  | "^" => .ok (a ^^^ b)
  | "&" => .ok (a &&& b)
  | "==" => .ok (ofBool (a = b))
  | "!=" => .ok (ofBool (a ≠ b))
  | "<" => .ok (ofBool (a < b))
  | ">" => .ok (ofBool (b < a))
  | "<=" => .ok (ofBool (a ≤ b))
  | ">=" => .ok (ofBool (b ≤ a))
  | "<<" => .ok (a <<< b)
  | ">>" => .ok (a >>> b)
  | "+" => .ok (a + b)
  | "-" => .ok (a - b)
  | "*" => .ok (a * b)
  | "/" => if b = 0 then .error .divisionByZero else .ok (a / b)
  | "%" => if b = 0 then .error .divisionByZero else .ok (a % b)
  | _ => .error (.expected "EOF")

/-- Whether the second value of an operator matters. -/
def needsSecond (operator : String) (a : Int64) : Bool :=
  match operator with
  | "||" => a = 0
  | "&&" => a ≠ 0
  | _ => true

/-- A computation with variables, which may fail. The variables that have been given values come
with these, the last one first. -/
abbrev Compute (α : Type) : Type := StateT (List (String × Int64)) (Except Fault) α

/-- What a computation works on: how variables were before, and whether the value is needed. -/
structure Setting where
  before : String → Except Fault Int64
  isNeeded : Bool

/-- The setting of a part that is only needed if `needed` holds. -/
def Setting.only (s : Setting) (needed : Bool) : Setting :=
  { s with isNeeded := s.isNeeded && needed }

/-- The value of a variable: one that it was given in the expression, or the one it had before. -/
def valueOf (s : Setting) (name : String) : Compute Int64 := do
  if s.isNeeded then
    match (← get).lookup name with
    | some n => return n
    | none => s.before name
  else
    return 0

/-- The value of an operator, if it is needed. -/
def combine (s : Setting) (operator : String) (a b : Int64) : Compute Int64 :=
  if s.isNeeded then apply operator a b else pure b

mutual

/-- The value of an expression, which may give a variable a value. -/
def expression (s : Setting) (fuel : Nat) (ts : List Token) : Compute (Int64 × List Token) :=
  match fuel with
  | 0 => throw (.expected "primary")
  | fuel + 1 => do
    match ts with
    | .name x :: .operator o :: rest =>
      match assignments.lookup o with
      | none => choice s fuel ts
      | some first =>
        let (n, rest) ← expression s fuel rest
        let value ← match first with
          | none => pure n
          | some o => combine s o (← valueOf s x) n
        if s.isNeeded then
          modify fun given => (x, value) :: given
        return (value, rest)
    | _ => choice s fuel ts

/-- The value of an expression that may choose between two others. -/
def choice (s : Setting) (fuel : Nat) (ts : List Token) : Compute (Int64 × List Token) :=
  match fuel with
  | 0 => throw (.expected "primary")
  | fuel + 1 => do
    let (condition, rest) ← operation s fuel 1 ts
    match rest with
    | .operator "?" :: rest =>
      match ← expression (s.only (condition ≠ 0)) fuel rest with
      | (a, .operator ":" :: rest) => do
        let (b, rest) ← choice (s.only (condition = 0)) fuel rest
        return (if condition ≠ 0 then a else b, rest)
      | _ => throw (.expected "':'")
    | _ => return (condition, rest)

/-- The value of an expression up to an operator of a lower rank. -/
def operation (s : Setting) (fuel : Nat) (least : Nat) (ts : List Token) :
    Compute (Int64 × List Token) :=
  match fuel with
  | 0 => throw (.expected "primary")
  | fuel + 1 => do
    let (a, ts) ← operand s fuel ts
    further s fuel least a ts

/-- The value of an operation that goes on behind its first operand. -/
def further (s : Setting) (fuel : Nat) (least : Nat) (a : Int64) (ts : List Token) :
    Compute (Int64 × List Token) :=
  match fuel with
  | 0 => throw (.expected "primary")
  | fuel + 1 => do
    match ts with
    | .operator o :: rest =>
      match ranks.lookup o with
      | some rank =>
        if rank < least then
          return (a, ts)
        else
          let (b, rest) ← operation (s.only (needsSecond o a)) fuel (rank + 1) rest
          further s fuel least (← combine s o a b) rest
      | none => return (a, ts)
    | _ => return (a, ts)

/-- The value of an operand. -/
def operand (s : Setting) (fuel : Nat) (ts : List Token) : Compute (Int64 × List Token) :=
  match fuel with
  | 0 => throw (.expected "primary")
  | fuel + 1 => do
    let signed := fun (rest : List Token) (f : Int64 → Int64) => do
      let (n, rest) ← operand s fuel rest
      return (f n, rest)
    match ts with
    | .number n :: rest => return (n, rest)
    | .name x :: rest => return (← valueOf s x, rest)
    | .operator "-" :: rest => signed rest (- ·)
    | .operator "+" :: rest => signed rest id
    | .operator "!" :: rest => signed rest fun n => ofBool (n = 0)
    | .operator "~" :: rest => signed rest (~~~ ·)
    | .operator "(" :: rest =>
      match ← expression s fuel rest with
      | (n, .operator ")" :: rest) => return (n, rest)
      | _ => throw (.expected "')'")
    | _ => throw (.expected "primary")

end

/-- The value of an expression, where `before` is what the variables hold, and the values that
variables are given, the last one first. -/
def evaluate (before : String → Option String) (source : String) :
    Except Fault (Int64 × List (String × Int64)) := do
  let ts := tokens (source.length + 1) source.toList
  let value := fun name => valueOfText ((before name).getD "")
  match ← (expression ⟨value, true⟩ (6 * ts.length + 6) ts).run [] with
  | ((n, []), given) => return (n, given)
  | _ => throw (.expected "EOF")

end JobShell.Script.Arithmetic
