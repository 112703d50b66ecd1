import JobShell.Script.Program
import JobShell.Machine.Tool.Check
import JobShell.Machine.Tool.Echo
import JobShell.Machine.Tool.Files
import JobShell.Machine.Tool.Filter
import JobShell.Machine.Tool.Search
import JobShell.Machine.Tool.Start

/-!
# The library

The programs that the machine has, by their names.
-/

namespace JobShell.Machine.Tool

/-- The programs of the machine. -/
def library : List (String × Tool) :=
  [("[", test), ("basename", basename), ("cat", cat), ("chmod", chmod), ("cp", cp), ("cut", cut),
   ("dash", Script.Program.tool), ("dirname", dirname), ("echo", echo), ("env", env),
   ("expr", expr), ("false", fail), ("grep", grep), ("head", head), ("kill", kill), ("ls", ls),
   ("mkdir", mkdir), ("mv", mv), ("nl", nl), ("printenv", printenv), ("printf", printf),
   ("pwd", pwd), ("rev", rev), ("rm", rm), ("rmdir", rmdir), ("sed", sed), ("seq", seq),
   ("sh", Script.Program.tool), ("sleep", sleep), ("sort", sort), ("tac", tac), ("tail", tail),
   ("tee", tee), ("test", test), ("touch", touch), ("tr", tr), ("true", succeed), ("uniq", uniq),
   ("wc", wc), ("yes", yes)]

/-- The program with a name. -/
def ofName? (name : String) : Option Tool := library.lookup name

end JobShell.Machine.Tool
