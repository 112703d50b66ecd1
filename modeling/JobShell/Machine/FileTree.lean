import JobShell.Errno
import JobShell.Text.Bytes

/-!
# The file tree

Directories, regular files, devices and programs, numbered and joined by name. A path is followed
name by name from the root or from a directory. A directory that has been removed keeps its number
but has no name any more, and nothing can be made in it.
-/

namespace JobShell.Machine

/-- The content of a file. -/
abbrev Bytes : Type := List UInt8

/-- The special files. -/
inductive Device where
  /-- Holds nothing and swallows everything. -/
  | null
  /-- An endless run of zero bytes. -/
  | zero
  /-- Takes nothing. -/
  | full
  deriving DecidableEq, Repr

/-- What stands in the tree. -/
inductive Node where
  | directory (parent : Nat) (entries : List (String × Nat))
  | file (content : Bytes) (executable : Bool)
  | device (which : Device)
  /-- A program that the machine can run, by its name. -/
  | program (name : String)
  deriving Inhabited

/-- A tree of files; a node's number is its place in the list, and the root has number 0. -/
structure FileTree where
  nodes : Array Node
  deriving Inhabited

/-- A path taken apart. -/
structure Path where
  /-- Whether it starts at the root. -/
  absolute : Bool
  names : List String
  /-- Whether it ends in a slash, so that only a directory will do. -/
  asDirectory : Bool

namespace Path

/-- The number of bytes from which on a path is too long. -/
def tooLong : Nat := 4096

/-- The most bytes that a name may have. -/
def longestName : Nat := 255

/-- Takes a path apart; an empty one leads nowhere. -/
def ofString (s : String) : Except Errno Path :=
  if s.isEmpty then
    .error .noEntry
  else if tooLong ≤ Text.utf8Length s.toList then
    .error .nameTooLong
  else
    .ok ⟨s.startsWith "/", ((s.splitOn "/").filter (!·.isEmpty)), s.endsWith "/"⟩

end Path

namespace FileTree

/-- The number of the root. -/
def root : Nat := 0

/-- A tree that holds nothing but its root. -/
def empty : FileTree := ⟨#[.directory root []]⟩

/-- The node with a number. -/
def node? (t : FileTree) (n : Nat) : Option Node := t.nodes[n]?

/-- Replaces a node. -/
def setNode (t : FileTree) (n : Nat) (node : Node) : FileTree := ⟨t.nodes.setIfInBounds n node⟩

/-- Whether a node is a directory. -/
def isDirectory (t : FileTree) (n : Nat) : Bool :=
  match t.node? n with
  | some (.directory _ _) => true
  | _ => false

/-- The entries of a directory. -/
def entries (t : FileTree) (n : Nat) : List (String × Nat) :=
  match t.node? n with
  | some (.directory _ entries) => entries
  | _ => []

/-- The directory above a directory. -/
def parent (t : FileTree) (n : Nat) : Nat :=
  match t.node? n with
  | some (.directory parent _) => parent
  | _ => root

/-- The name of a directory in the one above it, unless it has been removed. -/
def nameOf? (t : FileTree) (n : Nat) : Option String :=
  ((t.entries (t.parent n)).find? (·.2 = n)).map Prod.fst

/-- Whether a directory has not been removed. -/
def isLinked (t : FileTree) (n : Nat) : Bool := n = root || (t.nameOf? n).isSome

/-- Follows one name. -/
def step (t : FileTree) (n : Nat) (name : String) : Except Errno Nat :=
  if !t.isDirectory n then
    .error .notDirectory
  else if name = "." then
    .ok n
  else if name = ".." then
    .ok (t.parent n)
  else if Path.longestName < Text.utf8Length name.toList then
    .error .nameTooLong
  else
    match (t.entries n).lookup name with
    | some found => .ok found
    | none => .error .noEntry

/-- Follows names one after the other. -/
def walk (t : FileTree) (n : Nat) : List String → Except Errno Nat
  | [] => .ok n
  | name :: rest => do t.walk (← t.step n name) rest

/-- Where a path starts. -/
def startOf (directory : Nat) (p : Path) : Nat := if p.absolute then root else directory

/-- The node that a path leads to. -/
def resolve (t : FileTree) (directory : Nat) (path : String) : Except Errno Nat := do
  let p ← Path.ofString path
  let n ← t.walk (startOf directory p) p.names
  if p.asDirectory && !t.isDirectory n then
    throw .notDirectory
  return n

/-- Where the last name of a path is to be looked up, and that name; a path without names leads to
a directory. -/
def resolveParent (t : FileTree) (directory : Nat) (path : String) :
    Except Errno (Nat × String × Bool) := do
  let p ← Path.ofString path
  match p.names.getLast? with
  | none => return (startOf directory p, ".", true)
  | some name => return (← t.walk (startOf directory p) p.names.dropLast, name, p.asDirectory)

/-- The directory that a path leads to. -/
def resolveDirectory (t : FileTree) (directory : Nat) (path : String) : Except Errno Nat := do
  let n ← t.resolve directory path
  if t.isDirectory n then
    return n
  else
    throw .notDirectory

/-- Adds a node and gives it a name in a directory. -/
def add (t : FileTree) (directory : Nat) (name : String) (node : Node) : Nat × FileTree :=
  let n := t.nodes.size
  let t : FileTree := ⟨t.nodes.push node⟩
  (n, t.setNode directory (.directory (t.parent directory) (t.entries directory ++ [(name, n)])))

/-- Takes a name out of a directory. -/
def forget (t : FileTree) (directory : Nat) (name : String) : FileTree :=
  t.setNode directory
    (.directory (t.parent directory) ((t.entries directory).filter (·.1 ≠ name)))

/-- The path from the root to a directory. -/
def absolutePath (t : FileTree) (n : Nat) : Except Errno String :=
  let rec up : Nat → Nat → List String → Except Errno String
    | 0, _, _ => .error .noEntry
    | fuel + 1, n, below =>
      if n = root then
        .ok ("/" ++ "/".intercalate below)
      else
        match t.nameOf? n with
        | some name => up fuel (t.parent n) (name :: below)
        | none => .error .noEntry
  up (t.nodes.size + 1) n []

/-- How a file is opened. -/
structure OpenMode where
  read : Bool
  write : Bool
  /-- Whether the file is made if it is not there. -/
  create : Bool
  /-- Whether the content is thrown away. -/
  truncate : Bool
  /-- Whether everything is written at the end. -/
  append : Bool
  deriving DecidableEq, Repr

namespace OpenMode

/-- For reading only. -/
def reading : OpenMode := ⟨true, false, false, false, false⟩

/-- For writing a file anew. -/
def overwriting : OpenMode := ⟨false, true, true, true, false⟩

/-- For writing behind what is there. -/
def appending : OpenMode := ⟨false, true, true, false, true⟩

/-- For reading and writing, without losing what is there. -/
def updating : OpenMode := ⟨true, true, true, false, false⟩

end OpenMode

/-- Opens an existing node. -/
def openNode (t : FileTree) (n : Nat) (mode : OpenMode) : Except Errno (Nat × FileTree) :=
  match t.node? n with
  | some (.directory _ _) => if mode.write || mode.create then .error .isDirectory else .ok (n, t)
  | some (.file _ executable) =>
    if mode.truncate then .ok (n, t.setNode n (.file [] executable)) else .ok (n, t)
  | some _ => .ok (n, t)
  | none => .error .noEntry

/-- Opens a file, making it if the mode says so. -/
def openFile (t : FileTree) (directory : Nat) (path : String) (mode : OpenMode) :
    Except Errno (Nat × FileTree) :=
  if !mode.create then do
    t.openNode (← t.resolve directory path) mode
  else do
    let (above, name, asDirectory) ← t.resolveParent directory path
    match t.step above name with
    | .ok n => if asDirectory then throw .isDirectory else t.openNode n mode
    | .error e =>
      if e ≠ .noEntry then
        throw e
      else if asDirectory then
        throw .isDirectory
      else if t.isLinked above then
        return t.add above name (.file [] false)
      else
        throw .noEntry

/-- Makes a directory. -/
def makeDirectory (t : FileTree) (directory : Nat) (path : String) : Except Errno FileTree := do
  let (above, name, _) ← t.resolveParent directory path
  match t.step above name with
  | .ok _ => throw .alreadyThere
  | .error e =>
    if e = .noEntry && t.isLinked above then
      return (t.add above name (.directory above [])).2
    else
      throw e

/-- Takes the name of a file away. -/
def removeFile (t : FileTree) (directory : Nat) (path : String) : Except Errno FileTree := do
  let (above, name, asDirectory) ← t.resolveParent directory path
  let n ← t.step above name
  if t.isDirectory n then
    throw .isDirectory
  else if asDirectory then
    throw .notDirectory
  else
    return t.forget above name

/-- Removes an empty directory. -/
def removeDirectory (t : FileTree) (directory : Nat) (path : String) : Except Errno FileTree := do
  let (above, name, _) ← t.resolveParent directory path
  let n ← t.step above name
  if !t.isDirectory n then
    throw .notDirectory
  else if name = "." then
    throw .invalid
  else if name = ".." || !(t.entries n).isEmpty then
    throw .notEmpty
  else
    return t.forget above name

/-- Gives a node another name, taking the place of what had it. -/
def rename (t : FileTree) (directory : Nat) (source target : String) : Except Errno FileTree := do
  let (above, name, _) ← t.resolveParent directory source
  let n ← t.step above name
  let (newAbove, newName, asDirectory) ← t.resolveParent directory target
  if asDirectory && !t.isDirectory n then
    throw .notDirectory
  match t.step newAbove newName with
  | .ok old =>
    if old = n then
      return t
    else if t.isDirectory old && !t.isDirectory n then
      throw .isDirectory
    else if !t.isDirectory old && t.isDirectory n then
      throw .notDirectory
    else if !(t.entries old).isEmpty then
      throw .notEmpty
  | .error e =>
    if e ≠ .noEntry || !t.isLinked newAbove then
      throw e
  let t := (t.forget above name).forget newAbove newName
  let t := t.setNode newAbove
    (.directory (t.parent newAbove) (t.entries newAbove ++ [(newName, n)]))
  match t.node? n with
  | some (.directory _ entries) => return t.setNode n (.directory newAbove entries)
  | _ => return t

/-- Makes a file a program that may be run, or takes that away. -/
def setExecutable (t : FileTree) (directory : Nat) (path : String) (value : Bool) :
    Except Errno FileTree := do
  let n ← t.resolve directory path
  match t.node? n with
  | some (.file content _) => return t.setNode n (.file content value)
  | _ => return t

/-- Replaces the content of a regular file. -/
def setContent (t : FileTree) (n : Nat) (content : Bytes) : FileTree :=
  match t.node? n with
  | some (.file _ executable) => t.setNode n (.file content executable)
  | _ => t

/-- Makes a directory and all that lead to it, where they are not there yet. -/
def makePath (t : FileTree) (n : Nat) : List String → Nat × FileTree
  | [] => (n, t)
  | name :: rest =>
    match t.step n name with
    | .ok next => t.makePath next rest
    | .error _ =>
      let (next, t) := t.add n name (.directory n [])
      t.makePath next rest

/-- The regular files below a directory with their paths, which begin with `before`. -/
def filesBelow (t : FileTree) (n : Nat) (before : String) : Nat → List (String × Bytes)
  | 0 => []
  | fuel + 1 => (t.entries n).flatMap fun (name, child) =>
    match t.node? child with
    | some (.directory _ _) => t.filesBelow child (before ++ name ++ "/") fuel
    | some (.file content _) => [(before ++ name, content)]
    | _ => []

end FileTree

end JobShell.Machine
