import HttpStub.Text.Ascii
import HttpStub.Text.Split
import HttpStub.Text.Percent

/-!
# Paths of addresses

## Main definitions

* `HttpStub.Url.escapedInUser`, `HttpStub.Url.escapedInPath`, `HttpStub.Url.escapedInQuery`,
  `HttpStub.Url.escapedInFragment` — what cannot stand for itself in a part of an address.
* `HttpStub.Url.Path` — what an address says about the place of a resource on its machine.
* `HttpStub.Url.Path.ofPieces` — the path of segments, with dots carried out.
* `HttpStub.Url.Path.text` — how it is written.

## Design

A segment of one dot stands for nothing, one of two dots takes back the segment in front of it. A
segment that looks like the name of a drive is never taken back.
-/

namespace HttpStub.Url

/-! ## Characters that are escaped -/

/-- The characters that are escaped in a fragment. -/
def escapedInFragment (c : Char) : Bool :=
  Percent.isUnprintable c || [' ', '"', '<', '>', '\x60'].contains c

/-- The characters that are escaped in a query; an apostrophe is one of them where names are those
of the network. -/
def escapedInQuery (apostrophe : Bool) (c : Char) : Bool :=
  Percent.isUnprintable c || [' ', '"', '#', '<', '>'].contains c || (apostrophe && c == '\'')

/-- The characters that are escaped in a path. -/
def escapedInPath (c : Char) : Bool :=
  escapedInFragment c || ['#', '?', '\x7b', '\x7d'].contains c

/-- The characters that are escaped in the name and the password of a user. -/
def escapedInUser (c : Char) : Bool :=
  escapedInPath c || ['/', ':', ';', '=', '@', '[', '\\', ']', '^', '|'].contains c

/-! ## Paths -/

/-- What an address says about the place of a resource: segments with a slash in front of each, or a
text of any other form. -/
inductive Path where
  | rooted (segments : List String)
  | rootless (text : String)
  deriving DecidableEq, Repr

namespace Path

/-! ### Segments -/

/-- The segment is one dot, perhaps escaped. -/
def isDot (cs : List Char) : Bool :=
  let s := Ascii.lower (String.ofList cs)
  s == "." || s == "%2e"

/-- The segment is two dots, perhaps escaped. -/
def isDoubleDot (cs : List Char) : Bool :=
  let s := Ascii.lower (String.ofList cs)
  s == ".." || s == "%2e." || s == ".%2e" || s == "%2e%2e"

/-- A letter with a colon or a bar is the name of a drive. -/
def isDrive : List Char → Bool
  | [c, d] => c.isAlpha && (d == ':' || d == '|')
  | _ => false

/-- The name of a drive with a colon. -/
def nameDrive (cs : List Char) : List Char :=
  if isDrive cs then cs.take 1 ++ [':'] else cs

/-- The segments without the last one, which comes first here, unless it is a drive. -/
def takeBack : List (List Char) → List (List Char)
  | [] => []
  | s :: acc => if isDrive s then s :: acc else acc

/-- The segments with one more, which comes first here. The first one of all may be a `drive`. -/
def add (drive : Bool) (s : List Char) (acc : List (List Char)) : List (List Char) :=
  (if drive && acc.isEmpty then nameDrive s else s) :: acc

/-- The segments with dots carried out, after those that are given in reverse. -/
def resolveDots (drive : Bool) (acc : List (List Char)) : List (List Char) → List (List Char)
  | [] => acc.reverse
  | [s] =>
    if isDoubleDot s then ([] :: takeBack acc).reverse
    else if isDot s then ([] :: acc).reverse
    else (add drive s acc).reverse
  | s :: ss =>
    if isDoubleDot s then resolveDots drive (takeBack acc) ss
    else if isDot s then resolveDots drive acc ss
    else resolveDots drive (add drive s acc) ss

/-! ## Paths -/

/-- The path of some segments, escaped and with dots carried out. -/
def ofPieces (drive : Bool) (segments : List (List Char)) : Path :=
  .rooted ((resolveDots drive [] (segments.map (Percent.escape escapedInPath))).map String.ofList)

/-- The path starts with a drive. -/
def hasDrive : Path → Bool
  | .rooted (s :: _) => isDrive s.toList
  | _ => false

/-- The path without empty segments at its start. One segment is left. -/
def trimStart : Path → Path
  | .rooted segments =>
    let trimmed := segments.dropWhile (·.isEmpty)
    .rooted (if trimmed.isEmpty then [""] else trimmed)
  | p => p

/-- How a path is written. -/
def text : Path → String
  | .rooted segments => String.join (segments.map ("/" ++ ·))
  | .rootless s => s

end Path

end HttpStub.Url
