import JobShell.Script.Arithmetic
import JobShell.Script.State

/-!
# Words and what they stand for

A word is turned into characters that remember whether they were quoted. Those that came out of a
variable, a script or an expression without quotes are split into fields, and a field that is a
pattern stands for the files that match it.
-/

namespace JobShell.Script

open Machine

/-- A piece of what a word stands for. -/
inductive Piece where
  /-- A character; `splits` says whether a field may end at it. -/
  | glyph (glyph : Glyph) (splits : Bool)
  /-- Quotes, which make a field even if nothing is in them. -/
  | presence
  /-- The border between two arguments of the script. -/
  | border

namespace Expand

open Interp

/-- The pieces of a text. -/
def ofText (s : String) (quoted splits : Bool) : List Piece :=
  (if quoted then [.presence] else []) ++ s.toList.map fun c => .glyph ⟨c, quoted⟩ splits

/-- The characters of pieces, with a space for each border. -/
def glyphs (ps : List Piece) : List Glyph :=
  ps.filterMap fun
    | .glyph g _ => some g
    | .border => some ⟨' ', true⟩
    | .presence => none

/-- The text of pieces. -/
def text (ps : List Piece) : String := Pattern.text (glyphs ps)

/-- The pieces of the arguments of the script. -/
def ofArguments (arguments : List String) (quoted : Bool) : List Piece :=
  [.border].intercalate (arguments.map fun a => ofText a quoted (!quoted))

/-- A text without the line ends behind it. -/
def withoutLineEnds (s : String) : String := String.ofList (Text.dropTrailing (· = '\n') s.toList)

/-- The value of an arithmetic expression, in which variables have been put in. -/
def arithmetic (source : String) : Interp String := do
  let bindings := (← get).bindings
  match Arithmetic.evaluate (bindings.lookup ·) source with
  | .ok (n, given) =>
    for (name, value) in given.reverse do
      setVariable name (toString value.toInt)
    return toString n.toInt
  | .error fault => die (fault.message source)

/-- An arithmetic expression as a word, so that dollar signs in it are seen to. -/
def arithmeticWord (source : String) : Word :=
  ((Reader.parts (2 * source.length + 4) true true source.toList).map Prod.fst).getD
    [.literal source true]

mutual

/-- The pieces of a word. `outputOf` yields the output of a script. -/
def pieces (outputOf : String → Interp String) (fuel : Nat) (word : Word) : Interp (List Piece) :=
  match fuel, word with
  | 0, _ => return []
  | _, [] => return []
  | fuel + 1, part :: rest => do
    let first ← match part with
      | .literal s quoted => pure (ofText s quoted false)
      | .parameter name treatment quoted => parameter outputOf fuel name treatment quoted
      | .output source quoted => do
        let s ← outputOf source
        pure (ofText (withoutLineEnds s) quoted (!quoted))
      | .arithmetic source quoted => do
        let inner ← pieces outputOf fuel (arithmeticWord source)
        let s ← arithmetic (text inner)
        pure (ofText s quoted (!quoted))
    return first ++ (← pieces outputOf fuel rest)

/-- The pieces of a variable. -/
def parameter (outputOf : String → Interp String) (fuel : Nat) (name : String)
    (treatment : Treatment) (quoted : Bool) : Interp (List Piece) :=
  match fuel with
  | 0 => return []
  | fuel + 1 => do
    let value ← valueOf? name
    let ofValue := fun (s : String) => ofText s quoted (!quoted)
    let isMissing := fun (orEmpty : Bool) => value.all fun s => orEmpty && s.isEmpty
    match treatment with
    | .plain =>
      if name = "@" || (name = "*" && !quoted) then
        return ofArguments (← get).arguments quoted
      else
        return ofValue (value.getD "")
    | .length => return ofValue (toString (value.getD "").length)
    | .instead orEmpty word =>
      if isMissing orEmpty then pieces outputOf fuel word else return ofValue (value.getD "")
    | .assign orEmpty word =>
      if isMissing orEmpty then
        let s := text (← pieces outputOf fuel word)
        setVariable name s
        return ofValue s
      else
        return ofValue (value.getD "")
    | .demand orEmpty word =>
      if isMissing orEmpty then
        let complaint := text (← pieces outputOf fuel word)
        complain (name ++ ": " ++ if complaint.isEmpty then "parameter not set" else complaint)
        exit misuse
      else
        return ofValue (value.getD "")
    | .whenSet orEmpty word =>
      if isMissing orEmpty then return [] else pieces outputOf fuel word
    | .trim fromEnd longest word =>
      let pattern := glyphs (← pieces outputOf fuel word)
      return ofValue (Pattern.trim fromEnd longest pattern (value.getD ""))

end

/-- More parts than any word has. -/
def depth : Nat := 100000

/-! ## Fields -/

/-- Pieces that are being split: the fields that are complete, and the one that is not, both
backwards. -/
structure Splitting where
  fields : List (List Glyph)
  current : Option (List Glyph)

/-- Ends the field that is not complete. -/
def Splitting.endField (s : Splitting) : Splitting :=
  match s.current with
  | some field => ⟨field.reverse :: s.fields, none⟩
  | none => s

/-- Goes on with one piece. -/
def Splitting.add (separators : List Char) (s : Splitting) : Piece → Splitting
  | .presence => { s with current := some (s.current.getD []) }
  | .border => s.endField
  | .glyph g splits =>
    if splits && separators.contains g.char then
      if g.char = ' ' || g.char = '\t' || g.char = '\n' then s.endField
      else ({ s with current := some (s.current.getD []) }).endField
    else
      { s with current := some (g :: s.current.getD []) }

/-- The fields of pieces. -/
def split (separators : List Char) (ps : List Piece) : List (List Glyph) :=
  (ps.foldl (Splitting.add separators) ⟨[], none⟩).endField.fields.reverse

/-! ## File names -/

/-- The parts of a pattern between slashes. -/
def splitPath : List Glyph → List (List Glyph)
  | [] => [[]]
  | g :: rest =>
    match splitPath rest with
    | [] => [[g]]
    | first :: more => if g.char = '/' then [] :: first :: more else (g :: first) :: more

/-- The files below `before` that match the parts of a pattern. -/
def matchingFiles (before : String) : List (List Glyph) → Interp (List String)
  | [] => return [before]
  | part :: rest => do
    let close := if rest.isEmpty then "" else "/"
    if !part.any Pattern.isMagic then
      let path := before ++ Pattern.text part
      match rest, ← sys (.status (if path.isEmpty then "/" else path)) with
      | [], .error _ => return []
      | _, _ => matchingFiles (path ++ close) rest
    else
      match ← sys (.list (if before.isEmpty then "." else before)) with
      | .error _ => return []
      | .ok names =>
        let dotted := part.head?.any (·.char = '.')
        let found := names.filter fun name =>
          (dotted || !name.startsWith ".") && Pattern.isMatch part name.toList
        let mut all := []
        for name in found.mergeSort (· ≤ ·) do
          all := all ++ (← matchingFiles (before ++ name ++ close) rest)
        return all

/-- What a field stands for: the files that match it, if it is a pattern and there are any. -/
def filesOf (field : List Glyph) : Interp (List String) := do
  if field.any Pattern.isMagic then
    let found ← matchingFiles "" (splitPath field)
    return if found.isEmpty then [Pattern.text field] else found
  else
    return [Pattern.text field]

/-! ## Words -/

/-- The fields that a word stands for. -/
def fields (outputOf : String → Interp String) (word : Word) : Interp (List String) := do
  let ps ← pieces outputOf depth word
  let mut all := []
  for field in split (← separators) ps do
    all := all ++ (← filesOf field)
  return all

/-- The fields that words stand for. -/
def allFields (outputOf : String → Interp String) : List Word → Interp (List String)
  | [] => return []
  | word :: rest => do
    let first ← fields outputOf word
    return first ++ (← allFields outputOf rest)

/-- The text that a word stands for, without splitting. -/
def single (outputOf : String → Interp String) (word : Word) : Interp String := do
  return text (← pieces outputOf depth word)

/-- The pattern that a word stands for. -/
def pattern (outputOf : String → Interp String) (word : Word) : Interp (List Glyph) := do
  return glyphs (← pieces outputOf depth word)

end Expand

end JobShell.Script
