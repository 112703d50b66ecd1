/-!
# Patterns

The patterns that file names and the words of a choice are matched against: a star for any text, a
question mark for any character, brackets for one of several characters. A quoted character stands
for itself.
-/

namespace JobShell.Script

/-- A character, and whether it was quoted. -/
structure Glyph where
  char : Char
  quoted : Bool
  deriving DecidableEq, Repr

namespace Pattern

/-- Whether a character of a pattern stands for more than itself. -/
def isMagic (g : Glyph) : Bool := !g.quoted && (g.char = '*' || g.char = '?' || g.char = '[')

/-- The text of a pattern. -/
def text (gs : List Glyph) : String := String.ofList (gs.map (·.char))

/-- Reads the ranges of characters in brackets, behind the opening one. -/
def ranges : Nat → Bool → List Glyph → Option (List (Char × Char) × List Glyph)
  | 0, _, _ => none
  | fuel + 1, first, gs =>
    match gs with
    | [] => none
    | g :: rest =>
      if g.char = ']' && !g.quoted && !first then
        some ([], rest)
      else
        match rest with
        | dash :: high :: more =>
          if dash.char = '-' && !dash.quoted && !(high.char = ']' && !high.quoted) then
            (ranges fuel false more).map fun (rs, rest) => ((g.char, high.char) :: rs, rest)
          else
            (ranges fuel false rest).map fun (rs, rest) => ((g.char, g.char) :: rs, rest)
        | _ => (ranges fuel false rest).map fun (rs, rest) => ((g.char, g.char) :: rs, rest)

/-- Reads brackets behind the opening one: whether they are negated, the ranges, and what follows
them. -/
def bracket? (gs : List Glyph) : Option (Bool × List (Char × Char) × List Glyph) :=
  let (negated, gs) := match gs with
    | g :: rest => if !g.quoted && (g.char = '!' || g.char = '^') then (true, rest) else (false, gs)
    | [] => (false, gs)
  (ranges (gs.length + 1) true gs).map fun (rs, rest) => (negated, rs, rest)

/-- Whether a text matches a pattern; `fuel` is at least the length of both together. -/
def matchesWithin : Nat → List Glyph → List Char → Bool
  | 0, gs, cs => gs.isEmpty && cs.isEmpty
  | _, [], cs => cs.isEmpty
  | fuel + 1, g :: gs, cs =>
    let oneOf := fun (accepts : Char → Bool) (gs : List Glyph) =>
      match cs with
      | c :: rest => accepts c && matchesWithin fuel gs rest
      | [] => false
    if g.quoted then
      oneOf (· = g.char) gs
    else
      match g.char with
      | '*' => matchesWithin fuel gs cs || oneOf (fun _ => true) (g :: gs)
      | '?' => oneOf (fun _ => true) gs
      | '[' =>
        match bracket? gs with
        | some (negated, rs, rest) =>
          oneOf (fun c => (rs.any fun (low, high) => low ≤ c ∧ c ≤ high) != negated) rest
        | none => oneOf (· = '[') gs
      | char => oneOf (· = char) gs

/-- Whether a text matches a pattern. -/
def isMatch (pattern : List Glyph) (s : List Char) : Bool :=
  matchesWithin (pattern.length + s.length + 1) pattern s

/-- What is left of a text when something that matches has been taken off its beginning or its
end. -/
def trim (fromEnd longest : Bool) (pattern : List Glyph) (s : String) : String :=
  let cs := s.toList
  let counts := List.range (cs.length + 1)
  let counts := if longest then counts.reverse else counts
  let count := counts.find? fun n =>
    isMatch pattern (if fromEnd then cs.drop (cs.length - n) else cs.take n)
  match count with
  | some n => String.ofList (if fromEnd then cs.take (cs.length - n) else cs.drop n)
  | none => s

end Pattern

end JobShell.Script
