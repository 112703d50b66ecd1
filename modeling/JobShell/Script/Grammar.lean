/-!
# Scripts

The language of the machine's command interpreter, as far as it knows it: words that are made of
parts, commands with redirections, and the statements that join commands.
-/

namespace JobShell.Script

mutual

/-- A part of a word. What stands in quotes is neither split nor taken for a pattern. -/
inductive Part where
  | literal (text : String) (quoted : Bool)
  /-- The value of a variable. -/
  | parameter (name : String) (treatment : Treatment) (quoted : Bool)
  /-- The output of a script. -/
  | output (source : String) (quoted : Bool)
  /-- The value of an arithmetic expression. -/
  | arithmetic (source : String) (quoted : Bool)

/-- What is done with the value of a variable. With `orEmpty`, an empty value counts as none. -/
inductive Treatment where
  | plain
  | length
  /-- Without a value, the word stands for it. -/
  | instead (orEmpty : Bool) (word : List Part)
  /-- Without a value, the variable gets the word as its value. -/
  | assign (orEmpty : Bool) (word : List Part)
  /-- With a value, the word stands for it. -/
  | whenSet (orEmpty : Bool) (word : List Part)
  /-- Without a value, the script fails with the word as its complaint. -/
  | demand (orEmpty : Bool) (word : List Part)
  /-- Something that matches is taken off the beginning, or else off the end. -/
  | trim (fromEnd longest : Bool) (pattern : List Part)

end

instance : Inhabited Part := ⟨.literal "" false⟩

instance : Inhabited Treatment := ⟨.plain⟩

/-- A word. -/
abbrev Word : Type := List Part

/-- How a descriptor is redirected. -/
inductive Redirect where
  | input
  | output
  | append
  | update
  /-- To what another descriptor refers to, or closed. -/
  | duplicate
  /-- From the text itself. -/
  | text
  deriving DecidableEq, Repr

/-- A redirection of a descriptor. -/
structure Redirection where
  fd : Nat
  how : Redirect
  target : Word

/-- A statement. -/
inductive Statement where
  | simple (line : Nat) (assignments : List (String × Word)) (words : List Word)
      (redirections : List Redirection)
  /-- Statements joined by pipes; the status may be turned round. -/
  | pipeline (negated : Bool) (members : List Statement)
  /-- The second one only after the first has succeeded. -/
  | both (first second : Statement)
  /-- The second one only after the first has failed. -/
  | either (first second : Statement)
  | sequence (first second : Statement)
  | background (body : Statement)
  /-- In a process of its own, or not. -/
  | group (isolated : Bool) (body : Statement) (redirections : List Redirection)
  | conditional (test body : Statement) (otherwise : Option Statement)
      (redirections : List Redirection)
  /-- As long as the test succeeds, or as long as it fails. -/
  | repetition (whileFails : Bool) (test body : Statement) (redirections : List Redirection)
  /-- Once for each word, or for each argument of the script. -/
  | each (name : String) (words : Option (List Word)) (body : Statement)
      (redirections : List Redirection)
  /-- The first branch with a pattern that the word matches. -/
  | choice (word : Word) (branches : List (List Word × Option Statement))
      (redirections : List Redirection)
  | function (name : String) (body : Statement)
  deriving Inhabited

end JobShell.Script
