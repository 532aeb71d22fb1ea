import HttpStub.Text.Split
import HttpStub.Text.Utf8

/-!
# Directories and files

## Main definitions

* `HttpStub.FileTree` — a file with what reading it brings, or a directory with its entries.
* `HttpStub.Disk` — the directory at the root and the one that other paths start from.
* `HttpStub.Disk.find` — the file or directory of a path.
* `HttpStub.Disk.readText`, `HttpStub.Disk.list` — the text of a file, the entries of a directory.
* `HttpStub.FileError` — why a path cannot be read.
* `HttpStub.extension?` — the extension of a name.

## Design

A path is walked name by name, and the first name that leads nowhere decides the error. Only a
character that no path can hold and the length of the whole path are looked at before. What lies
above the current directory is not known, so it counts as a directory without entries.

Names are texts. A file system may also hold names whose octets are no UTF-8; files under such names
are outside this description.
-/

namespace HttpStub

/-! ## Errors -/

/-- Why a path cannot be read. -/
inductive FileError where
  | notFound
  | notDirectory
  | isDirectory
  /-- The path or a name in it is too long. -/
  | nameTooLong
  /-- The path holds the character zero. -/
  | zeroInPath
  /-- The octets are no text. -/
  | notText
  /-- Any other reason, in the words of the system. -/
  | other (reason : String)
  deriving DecidableEq, Repr

/-- The wording of an error. -/
def FileError.message : FileError → String
  | .notFound => "No such file or directory (os error 2)"
  | .notDirectory => "Not a directory (os error 20)"
  | .isDirectory => "Is a directory (os error 21)"
  | .nameTooLong => "File name too long (os error 36)"
  | .zeroInPath => "file name contained an unexpected NUL byte"
  | .notText => "stream did not contain valid UTF-8"
  | .other reason => reason

/-- The text of a file's octets. -/
def textOf (content : Bytes) : Except FileError String :=
  match Utf8.decode? content with
  | some s => .ok s
  | none => .error .notText

/-! ## Names -/

/-- The extension of a name: what follows its last dot, unless nothing stands before that dot. -/
def extension? (name : String) : Option String :=
  match Text.cut? '.' name.toList.reverse with
  | some (after, before) => if before.isEmpty then none else some (String.ofList after.reverse)
  | none => none

/-- The path of an entry of a directory. -/
def joinPath (dir name : String) : String :=
  if dir.isEmpty || dir.toList.getLast? == some '/' then dir ++ name else dir ++ "/" ++ name

/-! ## Trees -/

/-- A file with what reading it brings, or a directory with its entries by name. -/
inductive FileTree where
  | file (content : Except FileError Bytes)
  | directory (entries : List (String × FileTree))

namespace FileTree

instance : Inhabited FileTree := ⟨.directory []⟩

/-- The entry of a name. -/
def child? (name : String) : FileTree → Option FileTree
  | .file _ => none
  | .directory es => (es.find? (·.1 == name)).map Prod.snd

/-- The directory with an entry of a name, which replaces an old one; a file stays as it is. -/
def withEntry : FileTree → String → FileTree → FileTree
  | .file content, _, _ => .file content
  | .directory es, name, t => .directory (es.filter (·.1 != name) ++ [(name, t)])

/-- The tree with `t` at a path; the directories in between come into being. -/
def put : FileTree → List String → FileTree → FileTree
  | _, [], t => t
  | tree, name :: path, t =>
    tree.withEntry name (put ((tree.child? name).getD default) path t)

/-- The longest name in octets. -/
def maxNameSize : Nat := 255

/-- The end of a walk along a path from a tree, with the directories above it; `top` is what lies
above the last of them. -/
def walk (top : FileTree) : List FileTree → FileTree → List String → Except FileError FileTree
  | _, t, [] => .ok t
  | _, .file _, _ :: _ => .error .notDirectory
  | above, .directory es, name :: path =>
    if name = "" ∨ name = "." then walk top above (.directory es) path
    else if name = ".." then
      match above with
      | t :: above => walk top above t path
      | [] => walk top [] top path
    else if maxNameSize < name.utf8ByteSize then .error .nameTooLong
    else
      match (FileTree.directory es).child? name with
      | some t => walk top (.directory es :: above) t path
      | none => .error .notFound

end FileTree

/-! ## Paths -/

/-- The directory at the root, and the one that other paths start from. -/
structure Disk where
  root : FileTree
  current : FileTree

namespace Disk

/-- The first path that is too long, in octets. -/
def maxPathSize : Nat := 4096

/-- The file or directory of a path. -/
def find (d : Disk) (path : String) : Except FileError FileTree :=
  if path.isEmpty then .error .notFound
  else if path.toList.contains '\x00' then .error .zeroInPath
  else if maxPathSize ≤ path.utf8ByteSize then .error .nameTooLong
  else if path.toList.head? = some '/' then FileTree.walk d.root [] d.root (Text.split '/' path)
  else FileTree.walk default [] d.current (Text.split '/' path)

/-- The text of the file of a path. -/
def readText (d : Disk) (path : String) : Except FileError String := do
  match ← d.find path with
  | .file content => content.bind textOf
  | .directory _ => .error .isDirectory

/-- The entries of the directory of a path. -/
def list (d : Disk) (path : String) : Except FileError (List (String × FileTree)) := do
  match ← d.find path with
  | .file _ => .error .notDirectory
  | .directory es => return es

end Disk

end HttpStub
