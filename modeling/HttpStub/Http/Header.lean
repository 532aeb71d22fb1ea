import HttpStub.Text.Ascii
import HttpStub.Text.Split
import HttpStub.Text.Utf8

/-!
# Headers of requests and responses

## Main definitions

* `HttpStub.Headers` — headers in the order in which they were added; names are in lower case.
* `HttpStub.Headers.append`, `HttpStub.Headers.insert`, `HttpStub.Headers.remove` — changes.
* `HttpStub.Headers.values`, `HttpStub.Headers.text` — the values of a name.
* `HttpStub.isToken` — legal methods.
* `HttpStub.isFieldName`, `HttpStub.isFieldValue` — legal names and values.
* `HttpStub.titleCase` — the spelling of a name in exported stubs.
* `HttpStub.isInternal`, `HttpStub.isRelayExcluded`, `HttpStub.isSnapshotExcluded` — the names that
  are not passed on.

## Design

Names compare without regard to the case of ASCII letters, so they are kept in lower case. The
values of one name keep their order.
-/

namespace HttpStub

/-! ## Legal names and values -/

/-- The characters of a header name or of a method. -/
def isTokenChar (c : Char) : Bool :=
  c.isAlphanum ||
    ['!', '#', '$', '%', '&', '\'', '*', '+', '-', '.', '^', '_', '\x60', '|', '~'].contains c

/-- A legal method: at least one character, and legal ones only. -/
def isToken (s : String) : Bool :=
  !s.toList.isEmpty && s.toList.all isTokenChar

/-- How many characters a header name can have. -/
def nameLimit : Nat := 65535

/-- A legal header name: it is spelled like a method and is not too long. -/
def isFieldName (s : String) : Bool :=
  isToken s && s.toList.length ≤ nameLimit

/-- A legal header value: no control octets other than tabs. -/
def isFieldValue (v : Bytes) : Bool :=
  v.all fun b => (0x20 ≤ b && b != 0x7F) || b == 0x09

/-! ## Header maps -/

/-- Headers in the order in which they were added, with names in lower case. -/
structure Headers where
  entries : List (String × Bytes)
  deriving DecidableEq, Repr

namespace Headers

/-- No headers. -/
def empty : Headers := ⟨[]⟩

instance : Inhabited Headers := ⟨empty⟩

/-- One more header after the others. -/
def append (h : Headers) (name : String) (value : Bytes) : Headers :=
  ⟨h.entries ++ [(Ascii.lower name, value)]⟩

/-- The headers without those of a name. -/
def remove (h : Headers) (name : String) : Headers :=
  ⟨h.entries.filter (·.1 != Ascii.lower name)⟩

/-- The headers with a single one of the name, which replaces all others of it. -/
def insert (h : Headers) (name : String) (value : Bytes) : Headers :=
  (h.remove name).append name value

/-- The header is inserted if its value is legal; otherwise nothing changes. -/
def insertIfLegal (h : Headers) (name : String) (value : Bytes) : Headers :=
  if isFieldValue value then h.insert name value else h

/-- The header is added if its name and value are legal. -/
def append? (h : Headers) (name : String) (value : Bytes) : Option Headers :=
  if isFieldName name && isFieldValue value then some (h.append name value) else none

/-- Headers given one after the other. -/
def ofList (hs : List (String × Bytes)) : Headers :=
  hs.foldl (fun h e => h.append e.1 e.2) empty

/-- The values of a name in their order. -/
def values (h : Headers) (name : String) : List Bytes :=
  (h.entries.filter (·.1 == Ascii.lower name)).map Prod.snd

/-- The first value of a name. -/
def get? (h : Headers) (name : String) : Option Bytes :=
  (h.values name).head?

/-- The text of the first value of a name; the empty text if there is none. -/
def text (h : Headers) (name : String) : String :=
  match h.get? name with
  | some v => Utf8.decodeLossy v
  | none => ""

/-- The headers sorted by name; those of one name keep their order. -/
def sorted (h : Headers) : List (String × Bytes) :=
  h.entries.mergeSort fun a b => decide (a.1 ≤ b.1)

/-- The headers with those of one name together at the place of the first; `fuel` bounds the
number of names. -/
def groupedFrom : Nat → List (String × Bytes) → List (String × Bytes)
  | 0, es => es
  | _ + 1, [] => []
  | fuel + 1, e :: es =>
    (e :: es.filter (·.1 == e.1)) ++ groupedFrom fuel (es.filter (·.1 != e.1))

/-- The headers with those of one name together at the place of the first. -/
def grouped (h : Headers) : List (String × Bytes) :=
  groupedFrom h.entries.length h.entries

/-- The headers whose names satisfy a condition. -/
def filterNames (p : String → Bool) (h : Headers) : Headers :=
  ⟨h.entries.filter fun e => p e.1⟩

end Headers

/-! ## Spelling of names -/

/-- The parts of a header name that stay in upper case. -/
def abbreviations : List (List Char) :=
  ["XSS", "HTTP", "ID", "DNS", "CSP", "URI", "URL", "SSL", "TLS", "IP"].map String.toList

/-- A part of a header name: an abbreviation in upper case, or a capital and small letters. -/
def titleSegment (cs : List Char) : List Char :=
  if abbreviations.contains (cs.map Char.toUpper) then cs.map Char.toUpper
  else
    match cs with
    | [] => []
    | c :: rest => c.toUpper :: rest.map Char.toLower

/-- Parts with a dash between two of them. -/
def dashJoin : List (List Char) → List Char
  | [] => []
  | [p] => p
  | p :: ps => p ++ '-' :: dashJoin ps

/-- The spelling of a header name in exported stubs: each part between dashes starts with a
capital. -/
def titleCase (name : String) : String :=
  String.ofList (dashJoin ((Text.pieces (· == '-') name.toList).map titleSegment))

/-! ## Names that are not passed on -/

/-- Headers that are never relayed and never recorded. -/
def isInternal (name : String) : Bool :=
  "x-gdc".toList.isPrefixOf (Ascii.lower name).toList || Ascii.lower name == "date"

/-- Headers that are dropped when an unpacked response is relayed. -/
def isRelayExcluded (name : String) : Bool :=
  isInternal name || Ascii.sameText name "content-encoding" || Ascii.sameText name "content-length"

/-- Headers that are dropped when a response becomes a stub. -/
def isSnapshotExcluded (name : String) : Bool :=
  isRelayExcluded name || Ascii.sameText name "connection"
    || Ascii.sameText name "transfer-encoding"

end HttpStub
