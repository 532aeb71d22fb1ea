import HttpStub.Host.Address4
import HttpStub.Host.Address6
import HttpStub.Host.Label
import HttpStub.Text.Percent

/-!
# Hosts

## Main definitions

* `HttpStub.Host` — a machine, by its name or its number.
* `HttpStub.Host.nameOf?` — the one spelling, in ASCII, that all spellings of a name share.
* `HttpStub.Host.ofText?` — the machine that a text means where names are those of the network.
* `HttpStub.Host.ofLooseText?` — the machine that a text means where names are of any kind.
* `HttpStub.Host.text` — how it is written in an address.
-/

namespace HttpStub

/-- A machine: by its name, or by an address of four octets or of eight groups. -/
inductive Host where
  | name (s : String)
  | four (a : Address4)
  | six (a : Address6)
  deriving DecidableEq, Repr

namespace Host

/-! ## Names -/

/-- The plain spelling of a text. -/
def plainText? : List Char → Option (List Char)
  | [] => some []
  | c :: cs => do
    let p ← plain? c
    let ps ← plainText? cs
    return p ++ ps

/-- The labels of a name. If something is written from right to left, the order of all labels has to
be clear. -/
def labels? (cs : List Char) : Option (List Label) := do
  let labels ← (Text.pieces (· == '.') (Text.normalForm (← plainText? cs))).mapM Label.ofChars?
  if labels.any Label.turns && !labels.all Label.isOrdered then none else some labels

/-- The one spelling, in ASCII, that all spellings of a name share. -/
def nameOf? (cs : List Char) : Option (List Char) :=
  (labels? cs).map fun ls => ['.'].intercalate (ls.map (·.written))

/-! ## Reading and writing -/

/-- The address between brackets. -/
def ofBrackets? (cs : List Char) : Option Host :=
  if cs.getLast? == some ']' then (Address6.ofText? cs.dropLast).map .six else none

/-- The machine that a text means where names are those of the network. Escapes stand for their
octets, and a name that looks like a number is one. -/
def ofText? : List Char → Option Host
  | '[' :: cs => ofBrackets? cs
  | cs => do
    let spelled ← Utf8.decode? (Percent.unescape (Utf8.encodeChars cs))
    let name ← nameOf? spelled.toList
    if name.isEmpty then none
    else if Address4.isSpelledBy name then (Address4.ofName? name).map .four
    else return .name (String.ofList name)

/-- The characters that no name of any kind has. -/
def isForbidden (c : Char) : Bool :=
  ['\x00', '\t', '\n', '\r', ' ', '#', '/', ':', '<', '>', '?', '@', '[', '\\', ']', '^',
    '|'].contains c

/-- The machine that a text means where names are of any kind. Controls and characters beyond ASCII
are escaped. -/
def ofLooseText? : List Char → Option Host
  | '[' :: cs => ofBrackets? cs
  | cs =>
    if cs.any isForbidden then none
    else some (.name (String.ofList (Percent.escape Percent.isUnprintable cs)))

/-- How a machine is written in an address. -/
def text : Host → String
  | .name s => s
  | .four a => a.text
  | .six a => "[" ++ a.text ++ "]"

/-- How a machine is written on its own. -/
def bareText : Host → String
  | .six a => a.text
  | h => h.text

end Host

end HttpStub
