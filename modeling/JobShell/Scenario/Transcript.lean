import JobShell.Machine.Boot
import JobShell.Scenario.Names

/-!
# What a run leaves behind

The files of the working directory and the text on the console. The diagnostics are taken apart by
where they came from: new processes that had not become programs, the log, and all else. The path
of the working directory is written `$D`.
-/

namespace JobShell.Scenario

open Machine

/-- What stands for the working directory. -/
def workMark : String := "$D"

/-- A text with the mark in the place of the working directory's path. -/
def hideWork (s : String) : String := s.replace Kernel.workPath workMark

/-- The text of bytes, as a transcript shows it. -/
def shown (data : Bytes) : String := hideWork (Bytes.toString data)

/-- The lines of a text; what stands behind the last line end is a line if it is not empty. -/
def linesOf (s : String) : List String :=
  let parts := s.splitOn "\n"
  if parts.getLast? = some "" then parts.dropLast else parts

/-- The diagnostics on a console. -/
structure Diagnostics where
  /-- What the shell and its programs wrote. -/
  parent : List String
  /-- What new processes reported, put in order. -/
  children : List String
  /-- The events that were logged. -/
  events : List Log.Event

/-- The text that the shell and its programs wrote, without the log. -/
def parentText (notes : List Note) : String :=
  shown (notes.flatMap fun
    | .report _ => []
    | .event _ => []
    | note => note.bytes)

/-- The diagnostics on the console of a machine. -/
def diagnosticsOf (k : Kernel) : Diagnostics :=
  let notes := k.journal
  let reports := notes.filterMap fun
    | .report line => some (hideWork line)
    | _ => none
  let events := notes.filterMap fun
    | .event e => some e
    | _ => none
  ⟨linesOf (parentText notes), reports.mergeSort (· ≤ ·), events⟩

/-- The files of the working directory, with their contents. -/
def filesOf (k : Kernel) : List (String × String) :=
  k.workFiles.map fun (path, content) => (path, shown content)

/-- What was written to the console as output. -/
def outputOf (k : Kernel) : String := shown k.outputBytes

/-- The lines of diagnostics in which process numbers are looked for, in the order in which they
were written. -/
def numberedTexts (k : Kernel) : List String :=
  k.journal.map fun
    | .raw data => Bytes.toString data
    | .own line => line
    | .report line => line
    | .event e => e.line

/-- The process numbers that appear on a console: first in the diagnostics, then in the listings
of the output. -/
def namesOnConsole (k : Kernel) : Names :=
  let inDiagnostics := (numberedTexts k).flatMap Names.mentioned
  let inOutput := ((outputOf k).splitOn "\n").filterMap fun line =>
    (Names.listed? line).map fun found => found.2.1
  (inDiagnostics ++ inOutput).foldl Names.meet []

end JobShell.Scenario
