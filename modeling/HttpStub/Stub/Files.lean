import HttpStub.Files.Tree
import HttpStub.Log
import HttpStub.Stub.Format

/-!
# Files of stubs

## Main definitions

* `HttpStub.LoadError` — why a file or directory gives no stubs.
* `HttpStub.stubsOfFile` — the stubs of a file, given what reading it brings.
* `HttpStub.stubsOfEntries` — the stubs of a directory, given its entries.
* `HttpStub.Disk.stubsOfPath`, `HttpStub.Disk.stubsOfDirectory` — the stubs of a file and of a
  directory.

## Design

A directory gives the stubs of its files with the extension `json` in the order of their names. A
file that gives none does not keep the others from being loaded. The path of a file may be too long
although that of the directory is not: such a file is passed over.
-/

namespace HttpStub

/-! ## Errors -/

/-- Why a file or directory gives no stubs. -/
inductive LoadError where
  | unreadable (path : String) (cause : FileError)
  | malformed (path : String) (cause : Json.DecodeError)
  deriving DecidableEq

/-- The wording of an error. -/
def LoadError.message : LoadError → String
  | .unreadable path cause => "Could not read " ++ path ++ ": " ++ cause.message
  | .malformed path cause => "Could not parse " ++ path ++ ": " ++ cause.message

/-! ## Files -/

/-- The stubs of a file, given what reading it brings. -/
def stubsOfFile (path : String) (content : Except FileError String) :
    Except LoadError (List Stub) :=
  match content with
  | .error cause => .error (.unreadable path cause)
  | .ok text =>
    match Document.ofText text with
    | .ok d => .ok d.stubs
    | .error cause => .error (.malformed path cause)

/-- The stubs of the file of a path. -/
def Disk.stubsOfPath (d : Disk) (path : String) : Except LoadError (List Stub) :=
  stubsOfFile path (d.readText path)

/-! ## Directories -/

/-- An entry of a directory that holds stubs, with what reading it brings. -/
def stubFile? : String × FileTree → Option (String × Except FileError Bytes)
  | (name, .file content) => if extension? name == some "json" then some (name, content) else none
  | (_, .directory _) => none

/-- The files of a directory that hold stubs, with what reading them brings, in the order of their
names. -/
def stubFiles (entries : List (String × FileTree)) : List (String × Except FileError Bytes) :=
  (entries.filterMap stubFile?).mergeSort fun a b => decide (a.1 ≤ b.1)

/-- The event for the log when a file has been loaded or not. -/
def loadNotice (path : String) : Except LoadError (List Stub) → Event
  | .ok stubs => ⟨.info, "Loaded " ++ toString stubs.length ++ " mappings from " ++ path⟩
  | .error e => ⟨.warn, "Skipping mappings file: " ++ e.message⟩

/-- The stubs of a directory, given its entries, with the events for the log. -/
def stubsOfEntries (dir : String) (entries : List (String × FileTree)) : List Stub × List Event :=
  let files := (stubFiles entries).filter fun f =>
    (joinPath dir f.1).utf8ByteSize < Disk.maxPathSize
  let loaded := files.map fun (name, content) =>
    let path := joinPath dir name
    (path, stubsOfFile path (content.bind textOf))
  (loaded.flatMap fun l => l.2.toOption.getD [], loaded.map fun l => loadNotice l.1 l.2)

/-- The stubs of the directory of a path, with the events for the log. -/
def Disk.stubsOfDirectory (d : Disk) (dir : String) :
    Except LoadError (List Stub × List Event) :=
  match d.list dir with
  | .ok entries => .ok (stubsOfEntries dir entries)
  | .error cause => .error (.unreadable dir cause)

end HttpStub
