import HttpStub.Url.Basic

/-!
# Reading addresses

Reading settles what does not change the meaning of an address: scheme and host get their one
spelling, the usual number of a socket is left out, dots are carried out, and characters that cannot
stand for themselves are escaped.

## Main definitions

* `HttpStub.Url.Family` — how addresses of a scheme are read.
* `HttpStub.Url.read` — the address that a text spells.

## Design

Addresses are read from left to right, and a step that reads a part also gives the text after it.
-/

namespace HttpStub.Url

/-! ## Schemes -/

/-- How addresses of a scheme are read. -/
inductive Family where
  /-- They name a machine of the network. -/
  | network
  /-- They name a file, on this machine unless it is said otherwise. -/
  | file
  /-- They name anything. -/
  | loose
  deriving DecidableEq, Repr

/-- How addresses of a scheme are read. -/
def familyOf (scheme : String) : Family :=
  if scheme = "file" then .file
  else if (usualSocket? scheme).isSome then .network
  else .loose

/-- The scheme of a text, and the text after its colon. -/
def splitScheme? (cs : List Char) : Option (String × List Char) :=
  match Text.cut? ':' cs with
  | some (c :: scheme, rest) =>
    if c.isAlpha && scheme.all fun d => d.isAlphanum || d == '+' || d == '-' || d == '.' then
      some (Ascii.lower (String.ofList (c :: scheme)), rest)
    else none
  | _ => none

/-- The character separates segments. -/
def Family.isSlash (f : Family) (c : Char) : Bool :=
  c == '/' || (c == '\\' && f != .loose)

/-- The character ends what stands between scheme and path. -/
def Family.endsAuthority (f : Family) (c : Char) : Bool :=
  f.isSlash c || c == '?' || c == '#'

/-! ## Users -/

/-- The text before and after the last `@`. -/
def cutUser? (cs : List Char) : Option (List Char × List Char) :=
  (Text.cut? '@' cs.reverse).map fun (after, before) => (before.reverse, after.reverse)

/-- The user that a text names; nobody if there is neither a name nor a password. -/
def readUser (cs : List Char) : Option User :=
  let escaped (cs : List Char) : String := String.ofList (Percent.escape escapedInUser cs)
  match Text.cut? ':' cs with
  | some (name, []) => if name.isEmpty then none else some ⟨escaped name, none⟩
  | some (name, password) => some ⟨escaped name, some (escaped password)⟩
  | none => if cs.isEmpty then none else some ⟨escaped cs, none⟩

/-- The user at the start of a text. A sign for a user without one needs a host after it. -/
def splitUser? (f : Family) (cs : List Char) : Option (Option User × List Char) :=
  match cutUser? (cs.takeWhile (!f.endsAuthority ·)) with
  | none => some (none, cs)
  | some (user, place) =>
    let rest := place ++ cs.dropWhile (!f.endsAuthority ·)
    if user.isEmpty && rest.head?.any f.endsAuthority then none else some (readUser user, rest)

/-! ## Hosts and sockets -/

/-- The text up to the end of the host, and the text after it. Between brackets colons belong to the
host. -/
def splitHost (f : Family) (inside : Bool) : List Char → List Char × List Char
  | [] => ([], [])
  | c :: cs =>
    if f.endsAuthority c || (c == ':' && !inside) then ([], c :: cs)
    else
      let (host, rest) := splitHost f (c == '[' || (inside && c != ']')) cs
      (c :: host, rest)

/-- The machine that a text means; `some none` if the text is empty and need not mean one. -/
def readHost? (f : Family) (cs : List Char) : Option (Option Host) :=
  match f, cs with
  | .network, [] => none
  | _, [] => some none
  | .loose, cs => (Host.ofLooseText? cs).map some
  | _, cs => (Host.ofText? cs).map some

/-- The number of a socket at the start of a text, unless it is the usual one. -/
def readSocket? (usual : Option UInt16) (cs : List Char) : Option (Option UInt16 × List Char) :=
  let digits := cs.takeWhile Char.isDigit
  let rest := cs.dropWhile Char.isDigit
  let n := Nat.ofDigitChars 10 digits 0
  if 65535 < n || !rest.head?.all ['/', '\\', '?', '#'].contains then none
  else if digits.isEmpty || usual == some (UInt16.ofNat n) then some (none, rest)
  else some (some (UInt16.ofNat n), rest)

/-- Who, where, and which socket. Only with a host there may be the others. -/
def readAuthority? (f : Family) (scheme : String) (cs : List Char) :
    Option (Authority × List Char) := do
  let (user, cs) ← splitUser? f cs
  let (host, cs) := splitHost f false cs
  let host ← readHost? f host
  match cs with
  | ':' :: cs =>
    if host.isNone then none
    else
      let (socket, cs) ← readSocket? (usualSocket? scheme) cs
      return (⟨user, host, socket⟩, cs)
  | cs => if host.isNone && user.isSome then none else return (⟨user, host, none⟩, cs)

/-! ## What follows -/

/-- Query and fragment of the text after a path. -/
def readSuffix (f : Family) (cs : List Char) : Option String × Option String :=
  let (body, fragment) :=
    match Text.cut? '#' cs with
    | some (body, fragment) => (body, some fragment)
    | none => (cs, none)
  let query :=
    match body with
    | '?' :: query => some query
    | _ => none
  (query.map fun q => String.ofList (Percent.escape (escapedInQuery (f != .loose)) q),
    fragment.map fun s => String.ofList (Percent.escape escapedInFragment s))

/-- The text of a path, and the text after it. -/
def splitPath (cs : List Char) : List Char × List Char :=
  let isInside (c : Char) : Bool := c != '?' && c != '#'
  (cs.takeWhile isInside, cs.dropWhile isInside)

/-- The path with these characters after its first slash. -/
def readSegments (f : Family) (cs : List Char) : Path :=
  .ofPieces (f == .file) (Text.pieces f.isSlash cs)

/-- The path that follows an authority. It has a slash in front, written or not; only where
addresses name anything, there may be no path at all. -/
def readPath (f : Family) (cs : List Char) : Path :=
  match cs with
  | [] => if f == .loose then .rooted [] else readSegments f []
  | c :: rest => readSegments f (if f.isSlash c then rest else c :: rest)

/-- The address of an authority and the text after it. -/
def withAuthority (f : Family) (scheme : String) (a : Authority) (cs : List Char) : Url :=
  let (path, suffix) := splitPath cs
  let (query, fragment) := readSuffix f suffix
  ⟨scheme, some a, readPath f path, query, fragment⟩

/-! ## Files -/

/-- The host of a file's address, and the text of path and suffix. This machine has no name, and
neither has a drive. -/
def readFileHost? (cs : List Char) : Option (Option Host × List Char) := do
  let name := cs.takeWhile (!Family.file.endsAuthority ·)
  if Path.isDrive name then return (none, cs)
  else
    let host ← readHost? .file name
    let rest := cs.dropWhile (!Family.file.endsAuthority ·)
    return (if host == some (.name "localhost") then none else host, rest)

/-- The address of a file after its scheme. A drive is always one of this machine. -/
def readFile? (cs : List Char) : Option Url := do
  let (host, rest) ←
    match cs with
    | c :: d :: rest =>
      if Family.file.isSlash c && Family.file.isSlash d then readFileHost? rest
      else pure (none, cs)
    | cs => pure (none, cs)
  let u := withAuthority .file "file" ⟨none, host, none⟩ rest
  let host := if u.path.hasDrive then none else host
  return { u with authority := some ⟨none, host, none⟩, path := u.path.trimStart }

/-! ## All addresses -/

/-- An address that names anything, after its scheme. -/
def readLoose? (scheme : String) (cs : List Char) : Option Url := do
  match cs with
  | '/' :: '/' :: rest =>
    let (a, rest) ← readAuthority? .loose scheme rest
    return withAuthority .loose scheme a rest
  | cs =>
    let (path, suffix) := splitPath cs
    let (query, fragment) := readSuffix .loose suffix
    let path :=
      match path with
      | '/' :: segments => readSegments .loose segments
      | text => .rootless (String.ofList (Percent.escape Percent.isUnprintable text))
    return ⟨scheme, none, path, query, fragment⟩

/-- The address that a text spells. Blanks at the ends do not count, and neither do tabs and line
breaks anywhere. -/
def read (s : String) : Option Url := do
  let cs := Text.trimList (fun c : Char => c.toNat ≤ 0x20) s.toList
  let cs := cs.filter fun c => !(c == '\t' || c == '\n' || c == '\r')
  let (scheme, rest) ← splitScheme? cs
  match familyOf scheme with
  | .network =>
    let (a, rest) ← readAuthority? .network scheme (rest.dropWhile Family.network.isSlash)
    return withAuthority .network scheme a rest
  | .file => readFile? rest
  | .loose => readLoose? scheme rest

end HttpStub.Url
