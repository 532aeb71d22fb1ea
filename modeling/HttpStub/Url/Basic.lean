import HttpStub.Host.Basic
import HttpStub.Url.Path

/-!
# Addresses

## Main definitions

* `HttpStub.Url` — the address of a resource.
* `HttpStub.Url.text` — the one spelling that all spellings of an address share.
* `HttpStub.Url.login?` — the user whom an address names.
* `HttpStub.Url.endpoint?` — the machine and the socket that it is reached at.

## Design

The parts of an address are kept as they are written in it, escapes included, so that writing it is
a matter of putting them one after the other.
-/

namespace HttpStub

namespace Url

/-- A user as an address names one. -/
structure User where
  name : String
  password : Option String
  deriving DecidableEq, Repr

/-- Who asks, which machine, and which of its sockets, unless it is the usual one. -/
structure Authority where
  user : Option User
  host : Option Host
  socket : Option UInt16
  deriving DecidableEq, Repr

end Url

/-- The address of a resource. -/
structure Url where
  scheme : String
  authority : Option Url.Authority
  path : Url.Path
  query : Option String
  fragment : Option String
  deriving DecidableEq, Repr

namespace Url

/-! ## Writing -/

/-- How a user is written, with the sign after it. -/
def User.text (u : User) : String :=
  u.name ++ (u.password.map (":" ++ ·)).getD "" ++ "@"

/-- How an authority is written. -/
def Authority.text (a : Authority) : String :=
  (a.user.map User.text).getD "" ++ (a.host.map Host.text).getD ""
    ++ (a.socket.map fun n => ":" ++ toString n.toNat).getD ""

/-- What is written between scheme and path. Two slashes at the start of a path are set apart from
those in front of an authority. -/
def authorityText (u : Url) : String :=
  match u.authority, u.path with
  | some a, _ => "//" ++ a.text
  | none, .rooted ("" :: _ :: _) => "/."
  | none, _ => ""

/-- The one spelling that all spellings of an address share. -/
def text (u : Url) : String :=
  u.scheme ++ ":" ++ u.authorityText ++ u.path.text
    ++ (u.query.map ("?" ++ ·)).getD "" ++ (u.fragment.map ("#" ++ ·)).getD ""

/-! ## Parts -/

/-- The usual number of the socket for a scheme. -/
def usualSocket? (scheme : String) : Option UInt16 :=
  if scheme = "http" ∨ scheme = "ws" then some 80
  else if scheme = "https" ∨ scheme = "wss" then some 443
  else if scheme = "ftp" then some 21
  else none

/-- The machine that an address names. -/
def host? (u : Url) : Option Host :=
  u.authority.bind (·.host)

/-- The machine of an address, and the number of the socket that it is reached at. -/
def endpoint? (u : Url) : Option (Host × UInt16) := do
  let a ← u.authority
  return (← a.host, ← a.socket.or (usualSocket? u.scheme))

/-- The text that a part of an address stands for. -/
def plainText? (s : String) : Option String :=
  Utf8.decode? (Percent.unescape (Utf8.encode s))

/-- A user who can be asked for a password: name and password as plain texts. -/
structure Login where
  name : String
  password : Option String
  deriving DecidableEq, Repr

/-- The user whom an address names, as far as the octets of name and password are texts. -/
def login? (u : Url) : Option Login := do
  let user ← u.authority.bind (·.user)
  let name ← plainText? user.name
  let password := user.password.bind plainText?
  if name.isEmpty && password.isNone then none else some ⟨name, password⟩

/-- The address without its user. -/
def withoutUser (u : Url) : Url :=
  { u with authority := u.authority.map fun a => { a with user := none } }

end Url

end HttpStub
