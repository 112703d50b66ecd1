/-!
# Similar words

How alike two words are, and which of several words is so like a given one that it was probably
meant. The measure of Jaro counts the letters that the words share at nearly the same places, and
how many of those are in a different order.
-/

namespace JobShell.Text

/-- A fraction with a positive denominator. -/
structure Likeness where
  numerator : Nat
  denominator : Nat
  deriving DecidableEq, Repr

namespace Likeness

/-- No likeness. -/
def none : Likeness := ⟨0, 1⟩

/-- Whether `a` is the greater. -/
def exceeds (a b : Likeness) : Bool :=
  a.numerator * b.denominator > b.numerator * a.denominator

/-- The likeness from which on a word was probably meant. -/
def threshold : Likeness := ⟨7, 10⟩

end Likeness

/-- The places of `b` that the letters of `a`, of which the first stands at place `i`, are matched
with: each letter takes the first free place within `range` of its own that holds the same
letter. -/
def matchPlaces (range : Nat) (b : List Char) :
    (i : Nat) → (taken : List Nat) → List Char → List (Char × Nat)
  | _, _, [] => []
  | i, taken, c :: rest =>
    match (List.range b.length).find? fun j =>
        i ≤ j + range && j ≤ i + range && b[j]? == some c && !taken.contains j with
    | some j => (c, j) :: matchPlaces range b (i + 1) (j :: taken) rest
    | .none => matchPlaces range b (i + 1) taken rest

/-- How alike two words are. -/
def likeness (a b : List Char) : Likeness :=
  let range := max a.length b.length / 2 - 1
  let pairs := matchPlaces range b 0 [] a
  let m := pairs.length
  if m = 0 then
    .none
  else
    let inOrder := (List.range b.length).filter fun j => pairs.any (·.2 = j)
    let moved := ((pairs.map Prod.fst).zip (inOrder.filterMap (b[·]?))).filter
      fun p => p.1 ≠ p.2
    let t := moved.length / 2
    ⟨m * b.length * m + m * a.length * m + (m - t) * a.length * b.length,
      3 * a.length * b.length * m⟩

/-- The word most like `s` among `words`, if one is like enough. -/
def similar? (s : String) (words : List String) : Option String :=
  let scored := words.map fun w => (likeness s.toList w.toList, w)
  let best := scored.foldl (fun best x =>
    match best with
    | some (b : Likeness × String) => if b.1.exceeds x.1 then some b else some x
    | .none => some x) Option.none
  match best with
  | some (l, w) => if l.exceeds .threshold then some w else .none
  | .none => .none

end JobShell.Text
