import JobShell.Machine.Host

/-!
# A machine to begin with

A machine with the usual directories, its programs, a working directory that holds what is asked
for, and the shell as its only process.
-/

namespace JobShell.Machine

/-- What a machine is to look like when the shell begins. -/
structure Setup where
  /-- Directories in the working directory. -/
  directories : List String
  /-- Files in the working directory, with their contents. -/
  files : List (String × String)
  /-- Files that may be run. -/
  scripts : List (String × String)
  environment : Environment
  /-- The signals that the shell ignores. -/
  ignored : List Signal
  /-- The signals that the shell handles. -/
  handled : List Signal
  /-- The number of descriptors that a process may have. -/
  limit : Option Nat
  /-- The file that is standard input, if it is not the null device. -/
  input : Option Bytes

namespace Kernel

/-- The number of the shell's process. -/
def shellPid : Nat := 1000

/-- The number of the process that began the shell. -/
def shellParent : Nat := 999

/-- The path of the working directory. -/
def workPath : String := "/tmp/work"

/-- The directories of every machine. -/
def standardDirectories : List (List String) :=
  [["dev"], ["etc"], ["home"], ["proc"], ["root"], ["tmp"], ["usr", "bin"], ["usr", "lib"],
   ["usr", "local", "bin"], ["var", "tmp"]]

/-- The special files of every machine. -/
def standardDevices : List (String × Device) := [("null", .null), ("zero", .zero), ("full", .full)]

/-- The names of a path. -/
def namesOf (path : String) : List String := (path.splitOn "/").filter (!·.isEmpty)

/-- Adds a file below a directory, with the directories that lead to it. -/
def addBelow (tree : FileTree) (n : Nat) (path : String) (node : Node) : FileTree :=
  let names := namesOf path
  let (above, tree) := tree.makePath n names.dropLast
  (tree.add above (names.getLastD "") node).2

/-- A machine's tree without a working directory. The directory of programs has two names. -/
def standardTree : FileTree :=
  let tree := standardDirectories.foldl (fun t names => (t.makePath FileTree.root names).2) .empty
  let tree := standardDevices.foldl (fun t (name, device) =>
    addBelow t FileTree.root ("dev/" ++ name) (.device device)) tree
  let tree := Tool.library.foldl (fun t (name, _) =>
    addBelow t FileTree.root ("usr/bin/" ++ name) (.program name)) tree
  let (programs, tree) := tree.makePath FileTree.root ["usr", "bin"]
  tree.setNode FileTree.root
    (.directory FileTree.root (tree.entries FileTree.root ++ [("bin", programs)]))

/-- The tree that a setup asks for, and the number of its working directory. -/
def treeOf (s : Setup) : Nat × FileTree :=
  let (work, tree) := standardTree.makePath FileTree.root (namesOf workPath)
  let tree := s.directories.foldl (fun t path => (t.makePath work (namesOf path)).2) tree
  let tree := s.files.foldl (fun t (path, content) =>
    addBelow t work path (.file (Bytes.ofString content) false)) tree
  let tree := s.scripts.foldl (fun t (path, content) =>
    addBelow t work path (.file (Bytes.ofString content) true)) tree
  (work, tree)

/-- What the shell does with signals. -/
def dispositionsOf (s : Setup) : List (Signal × Disposition) :=
  s.ignored.map (·, .ignore) ++ s.handled.map (·, .handle)

/-- The machine that a setup asks for. What stands on standard input has been read by the shell
already. -/
def boot (s : Setup) : Kernel :=
  let (work, tree) := treeOf s
  let content := s.input.getD []
  let (inputNode, tree) := match s.input with
    | some _ => (tree.nodes.size, { tree with nodes := tree.nodes.push (.file content false) })
    | none => ((tree.resolve FileTree.root "/dev/null").toOption.getD FileTree.root, tree)
  let console : FileTree.OpenMode := .appending
  { tree
    files := #[⟨.node inputNode, .reading, content.length⟩, ⟨.output, console, 0⟩,
      ⟨.diagnostics, console, 0⟩]
    channels := #[]
    processes := [{
      pid := shellPid
      parent := shellParent
      life := .guided
      descriptors := ⟨[(0, ⟨0, false⟩), (1, ⟨1, false⟩), (2, ⟨2, false⟩)]⟩
      limit := s.limit
      directory := work
      environment := s.environment
      dispositions := dispositionsOf s
      pending := []
      caught := []
      isStopped := false
      news := none
      wake := none }]
    nextPid := shellPid + 1
    clock := 0
    output := []
    notes := [] }

/-- The regular files below the working directory, with their paths from there. -/
def workFiles (k : Kernel) : List (String × Bytes) :=
  match k.tree.resolve FileTree.root workPath with
  | .ok work => k.tree.filesBelow work "" (k.tree.nodes.size + 1)
  | .error _ => []

/-- The working directory of the shell, from where it began if it is below that. -/
def shellDirectory (k : Kernel) : Option String :=
  match k.process? shellPid with
  | none => none
  | some p =>
    match k.tree.absolutePath p.directory with
    | .error _ => none
    | .ok path =>
      if path = workPath then some "."
      else if path.startsWith (workPath ++ "/") then some (path.drop (workPath.length + 1)).toString
      else some path

end Kernel

end JobShell.Machine
