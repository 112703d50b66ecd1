/-!
# Commands

A command is one program to run, or several joined by pipes. Each stage has its own arguments, its
own redirections, and its own wish to be waited for. The main operations build a command up, take
its first stage off, and write it the way a user would type it.
-/

namespace JobShell

/-- One stage of a command: a program with its arguments and redirections. -/
structure Stage where
  /-- The program and its arguments. -/
  arguments : List String
  /-- The file that standard input is read from. -/
  input : Option String
  /-- The file that standard output is written to. -/
  output : Option String
  /-- Whether the shell waits for the stage before it goes on. -/
  blocking : Bool
  deriving DecidableEq, Repr, Inhabited

namespace Stage

/-- A stage in the foreground without redirections. -/
def ofArguments (arguments : List String) : Stage := ⟨arguments, none, none, true⟩

/-- The program's name, which is the first argument; empty when there is none. -/
def name (s : Stage) : String := s.arguments.headD ""

/-- The arguments, then the redirections, as they are typed. -/
def render (s : Stage) : String :=
  " ".intercalate s.arguments
    ++ (match s.input with | some path => " < " ++ path | none => "")
    ++ (match s.output with | some path => " > " ++ path | none => "")

end Stage

/-- A command: its first stage, and the stages its output is piped through. -/
structure Command where
  first : Stage
  rest : List Stage
  deriving DecidableEq, Repr, Inhabited

namespace Command

/-- A command of one stage. -/
def single (s : Stage) : Command := ⟨s, []⟩

/-- A command of one stage in the foreground without redirections. -/
def ofArguments (arguments : List String) : Command := single (.ofArguments arguments)

/-- All stages, the first one leading. -/
def stages (c : Command) : List Stage := c.first :: c.rest

/-- The command with the given stages, if there are any. -/
def ofStages? : List Stage → Option Command
  | [] => none
  | s :: rest => some ⟨s, rest⟩

/-- The name of the program that the first stage runs. -/
def name (c : Command) : String := c.first.name

/-- Whether a pipe leads out of the first stage. -/
def isPipeline (c : Command) : Bool := !c.rest.isEmpty

/-- The first stage on its own, and the command made of the other stages. -/
def split (c : Command) : Command × Option Command := (single c.first, ofStages? c.rest)

/-- The same command with the first stage reading from `path`. -/
def withInput (c : Command) (path : String) : Command :=
  { c with first := { c.first with input := some path } }

/-- The same command with the first stage writing to `path`. -/
def withOutput (c : Command) (path : String) : Command :=
  { c with first := { c.first with output := some path } }

/-- The same command with its first two stages put into the background. -/
def background (c : Command) : Command where
  first := { c.first with blocking := false }
  rest := match c.rest with
    | [] => []
    | s :: rest => { s with blocking := false } :: rest

/-- The first stage of `c` piped into `next`; what `c` was piped into before is dropped. -/
def pipeTo (c next : Command) : Command := ⟨c.first, next.stages⟩

/-- The stages as they are typed, joined by bars. -/
def render (c : Command) : String := " | ".intercalate (c.stages.map Stage.render)

@[simp] theorem stages_ofStages? {ss : List Stage} {c : Command} :
    ofStages? ss = some c ↔ ss = c.stages := by
  cases ss <;> cases c <;> simp [ofStages?, stages]

@[simp] theorem stages_pipeTo (c next : Command) :
    (c.pipeTo next).stages = c.first :: next.stages := rfl

/-- Splitting loses no stage. -/
theorem stages_split (c : Command) :
    c.split.1.stages ++ (c.split.2.map stages).getD [] = c.stages := by
  cases c with
  | mk first rest => cases rest <;> rfl

end Command

end JobShell
