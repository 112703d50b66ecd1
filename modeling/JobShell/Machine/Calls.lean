import JobShell.Machine.Kernel
import JobShell.Machine.Lines
import JobShell.Machine.Tool.Library
import JobShell.Wiring

/-!
# System calls

What the machine does when a process makes a system call. A call is answered, or it has to wait
until something else has happened, or the process does not come back from it.
-/

namespace JobShell.Machine

/-- What comes of a system call. -/
inductive Outcome (α : Type) where
  | answer (a : α) (k : Kernel)
  /-- The call is to be tried again. -/
  | blocked (k : Kernel)
  /-- There is no answer: the process has ended, or does something else now. -/
  | gone (k : Kernel)

namespace Kernel

/-- An answer that leaves the machine as it was if the call failed. -/
def reply {α : Type} (k : Kernel) (result : Except Errno (α × Kernel)) :
    Outcome (Except Errno α) :=
  match result with
  | .ok (a, k) => .answer (.ok a) k
  | .error e => .answer (.error e) k

/-- The answer to a call that failed. -/
def deny {α : Type} (k : Kernel) (e : Errno) : Outcome (Except Errno α) := .answer (.error e) k

/-- The answer to a call that changes the file tree. -/
def replyTree (k : Kernel) (result : Except Errno FileTree) : Outcome (Except Errno Unit) :=
  k.reply (result.map fun tree => ((), { k with tree }))

/-! ## Reading and writing -/

/-- Reads from a node of the file tree: the bytes, and how many of them move the place. -/
def readNode (k : Kernel) (n offset count : Nat) : Except Errno (Bytes × Nat) :=
  match k.tree.node? n with
  | some (.directory _ _) => .error .isDirectory
  | some (.file content _) =>
    let data := (content.drop offset).take count
    .ok (data, data.length)
  | some (.device .null) => .ok ([], 0)
  | some (.device _) => .ok (List.replicate count 0, 0)
  | _ => .ok ([], 0)

/-- Reads from an open file. -/
def read (k : Kernel) (p : Process) (fd count : Nat) : Outcome (Except Errno Bytes) :=
  match k.file? p fd with
  | none => k.deny .badDescriptor
  | some (number, file) =>
    if !file.mode.read then
      k.deny .badDescriptor
    else
      match file.target with
      | .node n =>
        k.reply ((k.readNode n file.offset count).map fun (data, moved) =>
          (data, k.setOffset number (file.offset + moved)))
      | .readEnd c =>
        let (data, channel) := (k.channels.getD c .empty).take count
        if !data.isEmpty || count = 0 then
          .answer (.ok data) { k with channels := k.channels.setIfInBounds c channel }
        else if k.isHeld (.writeEnd c) then
          .blocked k
        else
          .answer (.ok []) k
      | _ => k.deny .badDescriptor

/-- A file's content after bytes have been written at a place. -/
def overwrite (content : Bytes) (offset : Nat) (data : Bytes) : Bytes :=
  content.take offset ++ List.replicate (offset - content.length) 0 ++ data
    ++ content.drop (offset + data.length)

/-- Writes to a node of the file tree. The answer is the place after the write. -/
def writeNode (k : Kernel) (n : Nat) (file : OpenFile) (data : Bytes) :
    Except Errno (Nat × Kernel) :=
  match k.tree.node? n with
  | some (.file content _) =>
    let offset := if file.mode.append then content.length else file.offset
    .ok (offset + data.length,
      { k with tree := k.tree.setContent n (overwrite content offset data) })
  | some (.device .full) => .error .noSpace
  | _ => .ok (file.offset, k)

/-- Writes into a pipe. Without a reader that ends the process, unless it does not mind. -/
def writePipe (k : Kernel) (p : Process) (c : Nat) (data : Bytes) : Outcome (Except Errno Nat) :=
  if !k.isHeld (.readEnd c) then
    match p.disposition .pipe with
    | .default => .gone (k.finish p.pid (signalWord .pipe))
    | .ignore => k.deny .brokenPipe
    | .handle => .answer (.error .brokenPipe) (k.update p.pid (·.queue .pipe))
  else
    let channel := k.channels.getD c .empty
    match channel.accepts data.length with
    | none => .blocked k
    | some count =>
      .answer (.ok count)
        { k with channels := k.channels.setIfInBounds c (channel.push (data.take count)) }

/-- Writes to an open file. -/
def write (k : Kernel) (p : Process) (fd : Nat) (data : Bytes) : Outcome (Except Errno Nat) :=
  match k.file? p fd with
  | none => k.deny .badDescriptor
  | some (number, file) =>
    if !file.mode.write then
      k.deny .badDescriptor
    else
      match file.target with
      | .node n =>
        k.reply ((k.writeNode n file data).map fun (offset, k) =>
          (data.length, k.setOffset number offset))
      | .writeEnd c => k.writePipe p c data
      | .output => .answer (.ok data.length) (k.emit data)
      | .diagnostics => .answer (.ok data.length) (k.note (.raw data))
      | .readEnd _ => k.deny .badDescriptor

/-! ## Descriptors -/

/-- Opens a file. -/
def openFor (k : Kernel) (p : Process) (path : String) (mode : FileTree.OpenMode) :
    Except Errno (Nat × Kernel) := do
  let fd ← p.descriptors.free? p.limit 0
  let (number, k) ← k.openPath p path mode
  return (fd, k.setDescriptors p.pid (p.descriptors.set fd ⟨number, false⟩))

/-- Makes a pipe; the two descriptors are closed in the next program if `closeOnExec` says so. -/
def makePipe (k : Kernel) (p : Process) (closeOnExec : Bool) :
    Except Errno ((Nat × Nat) × Kernel) := do
  let channel := k.channels.size
  let (reader, k) := { k with channels := k.channels.push .empty }.addFile
    ⟨.readEnd channel, .reading, 0⟩
  let (writer, k) := k.addFile ⟨.writeEnd channel, .overwriting, 0⟩
  let (readEnd, d) ← p.descriptors.install p.limit ⟨reader, closeOnExec⟩
  let (writeEnd, d) ← d.install p.limit ⟨writer, closeOnExec⟩
  return ((readEnd, writeEnd), k.setDescriptors p.pid d)

/-- Makes the lowest free descriptor from `least` on refer to what `source` refers to. -/
def setAside (k : Kernel) (p : Process) (source least : Nat) : Except Errno (Nat × Kernel) := do
  match p.descriptors.get? source with
  | none => throw .badDescriptor
  | some slot =>
    let fd ← p.descriptors.free? p.limit least
    return (fd, k.setDescriptors p.pid (p.descriptors.set fd ⟨slot.file, true⟩))

/-! ## Processes -/

/-- Tells a process what became of a child that has ended. -/
def await (k : Kernel) (p : Process) (wanted : Option Nat) (block : Bool) :
    Outcome (Except Errno (Option (Nat × Nat))) :=
  let children := (k.childrenOf p.pid).filter fun c => wanted.all (· = c.pid)
  let ended := children.findSome? fun c =>
    match c.life with
    | .ended word => some (c.pid, word)
    | _ => none
  match ended with
  | some (pid, word) => .answer (.ok (some (pid, word))) (k.forget pid)
  | none =>
    if children.isEmpty then k.deny .noChild
    else if !block then .answer (.ok none) k
    else if !p.caught.isEmpty then k.deny .interrupted
    else .blocked k

/-- The processes that a signal is meant for: one, or all of them. -/
def addressees (k : Kernel) (p : Process) (number : Int) : List Process :=
  if number = 0 then k.processes
  else if number < 0 then k.processes.filter (·.pid ≠ p.pid)
  else k.processes.filter fun q => (q.pid : Int) = number

/-- Sends a signal, if there is one to send. -/
def kill (k : Kernel) (p : Process) (number : Int) (signal : Option Signal) :
    Except Errno (Unit × Kernel) :=
  let addressees := k.addressees p number
  if addressees.isEmpty then
    .error .noProcess
  else
    match signal with
    | none => .ok ((), k)
    | some s => .ok ((), addressees.foldl (fun k q => k.send q s) k)

/-- Does nothing until the time has come. -/
def sleep (k : Kernel) (p : Process) (duration : Nat) : Outcome Unit :=
  match p.wake with
  | none => .blocked (k.update p.pid fun p => { p with wake := some (k.clock + duration) })
  | some time =>
    if time ≤ k.clock then .answer () (k.update p.pid fun p => { p with wake := none })
    else .blocked k

/-! ## Programs -/

/-- Where programs are looked for when the environment does not say. -/
def standardPath : String := "/bin:/usr/bin"

/-- The shell that runs files without any mark of their own. -/
def scriptShell : String := "/bin/sh"

/-- The program and the first of its arguments that the mark at the beginning of a file asks for. -/
def interpreterLine? (content : Bytes) : Option (String × List String) :=
  match content with
  | 0x23 :: 0x21 :: rest =>
    let line := Text.strip (Bytes.toString (rest.takeWhile (· ≠ Bytes.lineFeed)))
    let name := String.ofList (line.toList.takeWhile fun c => c ≠ ' ' && c ≠ '\t')
    let argument := Text.strip (line.drop name.length).toString
    if name.isEmpty then none else some (name, if argument.isEmpty then [] else [argument])
  | _ => none

/-- The program that a path leads to and what it is started with. A file that begins with a mark
is run by the program that the mark names. -/
def programAt (k : Kernel) (p : Process) (path : String) (arguments : List String) :
    Nat → Except Errno (Tool × List String)
  | 0 => .error .notExecutable
  | fuel + 1 => do
    let n ← k.tree.resolve p.directory path
    match k.tree.node? n with
    | some (.program name) =>
      match Tool.ofName? name with
      | some tool => return (tool, arguments)
      | none => throw .notExecutable
    | some (.file content true) =>
      match interpreterLine? content with
      | some (name, more) =>
        k.programAt p name ([name] ++ more ++ [path] ++ arguments.drop 1) fuel
      | none => throw .notExecutable
    | _ => throw .accessDenied

/-- The program at a path. A file that is no program is run by the shell. -/
def programOrScript (k : Kernel) (p : Process) (path : String) (arguments : List String) :
    Except Errno (Tool × List String) :=
  match k.programAt p path arguments 4 with
  | .error e =>
    if e = .notExecutable then
      k.programAt p scriptShell ([scriptShell, path] ++ arguments.drop 1) 4
    else
      .error e
  | found => found

/-- Looks for a program in one directory after the other. That one of them holds a file which may
not be run is remembered. -/
def searchProgram (k : Kernel) (p : Process) (name : String) (arguments : List String) :
    Errno → List String → Except Errno (Tool × List String)
  | fault, [] => .error fault
  | fault, directory :: rest =>
    let path := if directory.isEmpty then name else directory ++ "/" ++ name
    match k.programOrScript p path arguments with
    | .ok found => .ok found
    | .error e =>
      if e = .noEntry || e = .notDirectory then k.searchProgram p name arguments fault rest
      else if e = .accessDenied then k.searchProgram p name arguments e rest
      else .error e

/-- The program with a name: a path if there is a slash in it. -/
def findProgram (k : Kernel) (p : Process) (name : String) (arguments : List String)
    (environment : Environment) : Except Errno (Tool × List String) :=
  if name.isEmpty then
    .error .noEntry
  else if name.contains '/' then
    k.programOrScript p name arguments
  else
    k.searchProgram p name arguments .noEntry
      (((environment.lookup "PATH").getD standardPath).splitOn ":")

/-- Makes a process another program. -/
def exec (k : Kernel) (p : Process) (name : String) (arguments : List String)
    (environment : Environment) : Except Errno Kernel := do
  let (tool, arguments) ← k.findProgram p name arguments environment
  let task := (tool ⟨arguments.headD "", arguments.tail, environment⟩).task
  return k.update p.pid fun p => { p.afterExec with life := .working task, environment }

/-- The signals that a program of the shell may be ended by, whatever the shell does with them. -/
def restoredSignals : List Signal := [.int, .quit, .tstp, .pipe]

/-- Opens the file of a redirection. -/
def openRedirection (p : Process) (direction : Direction) (path : String) :
    StateM Kernel (Except FileError Nat) := fun k =>
  let mode := match direction with
    | .input => FileTree.OpenMode.reading
    | .output => FileTree.OpenMode.overwriting
  match k.openPath p path mode with
  | .ok (number, k) => (.ok number, k)
  | .error e => (.error (.system e), k)

/-- The code of a process that could not become the program of its stage. -/
def failureCode : Nat := 1

/-- Ends a process that could not become the program of its stage. -/
def giveUp (k : Kernel) (p : Process) (report : String) : Kernel :=
  (k.note (.report report)).finish p.pid (exitWord failureCode)

/-- Makes a new process of the shell the program of its stage. -/
def enter (k : Kernel) (p : Process) (launch : Launch) : Kernel :=
  let p := restoredSignals.foldl (fun p s => p.setDisposition s .default) p
  let k := k.update p.pid fun _ => p
  match Wiring.wire (openRedirection p) p.limit launch p.descriptors k with
  | (.error fault, k) => k.giveUp p fault.message
  | (.ok descriptors, k) =>
    let name := launch.stage.name
    let k := if launch.announce then k.note (.report ("About to execvp command: " ++ name)) else k
    let p := { p with descriptors }
    let k := k.update p.pid fun _ => p
    match k.exec p name launch.stage.arguments p.environment with
    | .ok k => k
    | .error e => k.giveUp p ("execvp failed: " ++ name ++ ": " ++ e.symbolic)

/-! ## All calls -/

/-- What can be asked about a node of the file tree. -/
def statusOfNode (k : Kernel) (n : Nat) : FileStatus :=
  match k.tree.node? n with
  | some (.directory _ _) => ⟨.directory, n, 4096, true⟩
  | some (.file content executable) => ⟨.regular, n, content.length, executable⟩
  | some (.program _) => ⟨.regular, n, 1, true⟩
  | _ => ⟨.device, n, 0, false⟩

/-- What can be asked about the file at a path. -/
def statusOfPath (k : Kernel) (p : Process) (path : String) : Except Errno FileStatus :=
  match descriptorOfPath? path with
  | some fd =>
    match k.file? p fd with
    | some (_, ⟨.node n, _, _⟩) => .ok (k.statusOfNode n)
    | some (number, _) => .ok ⟨.device, k.tree.nodes.size + number, 0, false⟩
    | none => .error .noEntry
  | none => (k.tree.resolve p.directory path).map k.statusOfNode

/-- Carries out a system call. -/
def perform (k : Kernel) (p : Process) : (c : Sys) → Outcome c.Answer
  | .read fd count => k.read p fd count
  | .write fd data => k.write p fd data
  | .openFile path mode => k.reply (k.openFor p path mode)
  | .close fd =>
    if p.descriptors.isOpen fd then
      .answer (.ok ()) (k.setDescriptors p.pid (p.descriptors.close fd))
    else
      k.deny .badDescriptor
  | .duplicate source target =>
    k.reply ((p.descriptors.duplicate source target).map fun d => ((), k.setDescriptors p.pid d))
  | .setAside source least => k.reply (k.setAside p source least)
  | .makePipe => k.reply (k.makePipe p false)
  | .await pid block => k.await p pid block
  | .kill number signal => k.reply (k.kill p number signal)
  | .sleep duration => k.sleep p duration
  | .ownPid => .answer p.pid k
  | .parentPid => .answer p.parent k
  | .changeDirectory path =>
    k.reply ((k.tree.resolveDirectory p.directory path).map fun directory =>
      ((), k.update p.pid fun p => { p with directory }))
  | .currentDirectory => .answer (k.tree.absolutePath p.directory) k
  | .status path => .answer (k.statusOfPath p path) k
  | .list path =>
    .answer ((k.tree.resolveDirectory p.directory path).map fun n =>
      (k.tree.entries n).map Prod.fst) k
  | .removeFile path => k.replyTree (k.tree.removeFile p.directory path)
  | .makeDirectory path => k.replyTree (k.tree.makeDirectory p.directory path)
  | .removeDirectory path => k.replyTree (k.tree.removeDirectory p.directory path)
  | .rename source target => k.replyTree (k.tree.rename p.directory source target)
  | .setExecutable path value => k.replyTree (k.tree.setExecutable p.directory path value)
  | .setDisposition signal disposition =>
    .answer () (k.update p.pid (·.setDisposition signal disposition))
  | .takeCaught => .answer p.caught (k.update p.pid fun p => { p with caught := [] })
  | .exec path arguments environment =>
    match k.exec p path arguments environment with
    | .ok k => .gone k
    | .error e => .answer e k
  | .enter launch => .gone (k.enter p launch)
  | .yield => .answer () k

end Kernel

end JobShell.Machine
