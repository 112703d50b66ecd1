import JobShell.Table

/-!
# The text of a process listing

A heading, then one line for each process. The text is made of pieces, each of which is handed to
the output on its own.
-/

namespace JobShell

namespace Listing

/-- The line above the processes. -/
def heading : String := "Index   PID   Command   STATUS\n"

/-- The pieces of one line: index and number, each argument followed by a space, then the status
with the end of the line. -/
def entryPieces (e : Entry) : List String :=
  [toString e.index ++ "  " ++ e.pid.text ++ "  "]
    ++ e.arguments.map (· ++ " ")
    ++ ["    " ++ e.status.text ++ "\n"]

/-- The pieces of a listing. -/
def pieces (entries : List Entry) : List String := heading :: entries.flatMap entryPieces

/-- The whole text of a listing. -/
def text (entries : List Entry) : String := String.join (pieces entries)

end Listing

end JobShell
