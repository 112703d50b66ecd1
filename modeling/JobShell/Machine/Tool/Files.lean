import JobShell.Machine.Tool.Echo

/-!
# Tools that work on files

Listing, making, moving and removing.
-/

namespace JobShell.Machine.Tool

open Act

/-- Does something to each operand; the value is the code. -/
def forOperands (operands : List String) (f : String → Act Bool) : Act Nat := do
  let mut good := true
  for operand in operands do
    let fine ← f operand
    good := good && fine
  return codeOf good

/-- Complains and is not content. -/
def complainOf (i : Invocation) (message : String) : Act Bool := do
  warn i message
  return false

/-- A text in quotes, as complaints show it. -/
def quoted (s : String) : String := "'" ++ s ++ "'"

/-- Complains about a failure unless there was none. -/
def report (i : Invocation) (what : String) (result : Except Errno Unit) : Act Bool := do
  match result with
  | .ok () => return true
  | .error e => complainOf i (what ++ ": " ++ e.wording)

/-- A path below a directory. -/
def below (directory name : String) : String :=
  if directory.endsWith "/" then directory ++ name else directory ++ "/" ++ name

/-- Whether a path leads to a directory. -/
def isDirectoryAt (path : String) : Act Bool := do
  match ← sys (.status path) with
  | .ok s => return s.kind = .directory
  | .error _ => return false

/-- Where something that is moved to `target` gets to. -/
def destination (source target : String) : Act String := do
  return if ← isDirectoryAt target then below target (baseName source) else target

/-! ## Listing -/

/-- The names that a listing of a directory shows. -/
def shownNames (all : Bool) (names : List String) : List String :=
  let names := if all then "." :: ".." :: names else names.filter (!·.startsWith ".")
  names.mergeSort (· ≤ ·)

/-- Lists files and the contents of directories. -/
def ls : Tool := fun i => do
  let p ← parsed i (.ofPlain "1aAdlsrtRF") 2
  let operands := if p.operands.isEmpty then ["."] else p.operands.mergeSort (· ≤ ·)
  let order := fun (names : List String) => if p.has 'r' then names.reverse else names
  let mut files := []
  let mut directories := []
  let mut good := true
  for operand in operands do
    match ← sys (.status operand) with
    | .error e =>
      warn i ("cannot access " ++ quoted operand ++ ": " ++ e.wording)
      good := false
    | .ok s =>
      if s.kind = .directory && !p.has 'd' then directories := directories ++ [operand]
      else files := files ++ [operand]
  let showLines := fun (names : List String) => printText i (String.join (names.map (· ++ "\n")))
  showLines (order files)
  let headings := 1 < operands.length
  let mut first := files.isEmpty
  for directory in order directories do
    if headings then
      printText i ((if first then "" else "\n") ++ directory ++ ":\n")
    first := false
    match ← sys (.list directory) with
    | .ok names =>
      let hidden := if p.has 'A' then names.filter (·.startsWith ".") else []
      showLines (order ((hidden ++ shownNames (p.has 'a') names).mergeSort (· ≤ ·)))
    | .error e =>
      warn i ("cannot open directory " ++ quoted directory ++ ": " ++ e.wording)
      good := false
  return if good then 0 else 2

/-! ## Making and removing -/

/-- Refuses a call without operands. -/
def needOperands (i : Invocation) (operands : List String) : Act Unit := do
  if operands.isEmpty then refuse i 1 "missing operand"

/-- The directories that lead to a path, and the path itself. -/
def leadingPaths (path : String) : List String :=
  let names := (path.splitOn "/").filter (!·.isEmpty)
  let start := if path.startsWith "/" then "/" else ""
  (List.range names.length).map fun k => start ++ "/".intercalate (names.take (k + 1))

/-- Makes directories. -/
def mkdir : Tool := fun i => do
  let p ← parsed i ⟨['p', 'v'], ['m'], false⟩ 1
  needOperands i p.operands
  forOperands p.operands fun operand => do
    let what := "cannot create directory " ++ quoted operand
    if p.has 'p' then
      let mut good := true
      for path in leadingPaths operand do
        unless ← isDirectoryAt path do
          let made ← report i what (← sys (.makeDirectory path))
          good := good && made
      return good
    else
      report i what (← sys (.makeDirectory operand))

/-- Removes empty directories. -/
def rmdir : Tool := fun i => do
  let p ← parsed i (.ofPlain "pv") 1
  needOperands i p.operands
  forOperands p.operands fun operand => do
    report i ("failed to remove " ++ quoted operand) (← sys (.removeDirectory operand))

/-- Removes a file, or a directory with all that is in it. -/
def removeTree (i : Invocation) : Nat → String → Act Bool
  | 0, _ => return false
  | fuel + 1, path => do
    if ← isDirectoryAt path then
      let names := (← sys (.list path)).toOption.getD []
      let mut good := true
      for name in names do
        let fine ← removeTree i fuel (below path name)
        good := good && fine
      let removed ← report i ("cannot remove " ++ quoted path) (← sys (.removeDirectory path))
      return good && removed
    else
      report i ("cannot remove " ++ quoted path) (← sys (.removeFile path))

/-- Removes files. -/
def rm : Tool := fun i => do
  let p ← parsed i (.ofPlain "rRfivd") 1
  let recursive := p.has 'r' || p.has 'R'
  unless p.has 'f' do
    needOperands i p.operands
  forOperands p.operands fun operand => do
    match ← sys (.status operand) with
    | .error e =>
      if p.has 'f' && e = .noEntry then return true
      else complainOf i ("cannot remove " ++ quoted operand ++ ": " ++ e.wording)
    | .ok s =>
      if s.kind = .directory && !recursive then
        complainOf i ("cannot remove " ++ quoted operand ++ ": " ++ Errno.isDirectory.wording)
      else
        removeTree i Path.tooLong operand

/-- Takes the last operand off those of a tool that needs two. -/
def withTarget (i : Invocation) (operands : List String) : Act (List String × String) := do
  match operands.reverse with
  | [] => refuse i 1 "missing file operand"
  | [only] => refuse i 1 ("missing destination file operand after " ++ quoted only)
  | target :: sources =>
    let sources := sources.reverse
    if 1 < sources.length && !(← isDirectoryAt target) then
      warn i ("target " ++ quoted target ++ ": " ++ Errno.notDirectory.wording)
      exit 1
    return (sources, target)

/-- Gives files other names. -/
def mv : Tool := fun i => do
  let p ← parsed i (.ofPlain "fivnT") 1
  let (sources, target) ← withTarget i p.operands
  forOperands sources fun source => do
    match ← sys (.status source) with
    | .error e => complainOf i ("cannot stat " ++ quoted source ++ ": " ++ e.wording)
    | .ok _ =>
      let path ← destination source target
      report i ("cannot move " ++ quoted source ++ " to " ++ quoted path)
        (← sys (.rename source path))

/-- Copies one file; whether it may be run goes with it. -/
def copyFile (i : Invocation) (source target : String) (s : FileStatus) : Act Bool := do
  match ← contentOf source with
  | .error e => complainOf i ("cannot open " ++ quoted source ++ " for reading: " ++ e.wording)
  | .ok data =>
    match ← sys (.openFile target .overwriting) with
    | .error e => complainOf i ("cannot create regular file " ++ quoted target ++ ": " ++ e.wording)
    | .ok fd =>
      let _ ← writeAll fd data
      let _ ← sys (.close fd)
      if s.executable then
        let _ ← sys (.setExecutable target true)
      return true

/-- Copies a file, or a directory with all that is in it. -/
def copyTree (i : Invocation) : Nat → String → String → Act Bool
  | 0, _, _ => return false
  | fuel + 1, source, target => do
    match ← sys (.status source) with
    | .error e => complainOf i ("cannot stat " ++ quoted source ++ ": " ++ e.wording)
    | .ok s =>
      if s.kind = .directory then
        let _ ← sys (.makeDirectory target)
        let mut good := true
        for name in (← sys (.list source)).toOption.getD [] do
          let fine ← copyTree i fuel (below source name) (below target name)
          good := good && fine
        return good
      else
        copyFile i source target s

/-- Copies files. -/
def cp : Tool := fun i => do
  let p ← parsed i (.ofPlain "rRfipav") 1
  let recursive := p.has 'r' || p.has 'R' || p.has 'a'
  let (sources, target) ← withTarget i p.operands
  forOperands sources fun source => do
    if !recursive && (← isDirectoryAt source) then
      complainOf i ("-r not specified; omitting directory " ++ quoted source)
    else
      copyTree i Path.tooLong source (← destination source target)

/-- Makes files that are not there. -/
def touch : Tool := fun i => do
  let p ← parsed i ⟨['a', 'c', 'm'], ['d', 't', 'r'], false⟩ 1
  if p.operands.isEmpty then refuse i 1 "missing file operand"
  forOperands p.operands fun operand => do
    match ← sys (.status operand) with
    | .ok _ => return true
    | .error _ =>
      if p.has 'c' then
        return true
      else
        match ← sys (.openFile operand .appending) with
        | .ok fd =>
          let _ ← sys (.close fd)
          return true
        | .error e => complainOf i ("cannot touch " ++ quoted operand ++ ": " ++ e.wording)

/-- What a mode says about whether a file may be run, if it says anything. -/
def runnable? (mode : String) : Option Bool :=
  match mode.toList.getLast?.map (·.toNat - 48) with
  | some digit =>
    if mode.toList.all Char.isDigit then some (digit % 2 = 1)
    else if !mode.contains 'x' then none
    else some (!mode.contains '-')
  | none => none

/-- Says whether files may be run. -/
def chmod : Tool := fun i => do
  match i.arguments with
  | [] => refuse i 1 "missing operand"
  | [mode] => refuse i 1 ("missing operand after " ++ quoted mode)
  | mode :: operands =>
    forOperands operands fun operand => do
      match ← sys (.status operand), runnable? mode with
      | .error e, _ => complainOf i ("cannot access " ++ quoted operand ++ ": " ++ e.wording)
      | .ok _, some value =>
        report i ("changing permissions of " ++ quoted operand)
          (← sys (.setExecutable operand value))
      | .ok _, none => return true

end JobShell.Machine.Tool
