import HttpStub.Text.Ascii
import HttpStub.Text.Split

/-!
# Addresses of four octets

## Main definitions

* `HttpStub.Address4` — an address of four octets.
* `HttpStub.Address4.isSpelledBy` — a name has to be read as such an address.
* `HttpStub.Address4.ofName?` — the address that a name spells.
* `HttpStub.Address4.text` — its four octets with dots between them.

## Design

A name spells an address in one to four parts. Each part but the last one is an octet, and the last
one fills all octets that are left. A name whose last part is a number is never the name of a host:
if it spells no address, nothing is meant by it.
-/

namespace HttpStub

/-- An address of four octets, the first one on top. -/
structure Address4 where
  value : UInt32
  deriving DecidableEq, Repr

namespace Address4

/-! ## Parts -/

/-- The number of a text in digits of a base; the empty text spells zero. -/
def inBase? (base : Nat) (cs : List Char) : Option Nat :=
  cs.foldlM (fun n c => do
    let d ← Ascii.hexDigit? c
    if d < base then some (n * base + d) else none) 0

/-- The number that a part spells: after `0x` in hexadecimal digits, after `0` in octal ones. -/
def number? : List Char → Option Nat
  | [] => none
  | '0' :: 'x' :: cs => inBase? 16 cs
  | '0' :: 'X' :: cs => inBase? 16 cs
  | '0' :: c :: cs => inBase? 8 (c :: cs)
  | cs => inBase? 10 cs

/-- The parts of a name; one dot at its end does not count. -/
def partsOf (name : List Char) : List (List Char) :=
  let parts := Text.pieces (· == '.') name
  if parts.getLast? == some [] then parts.dropLast else parts

/-- The part is a number, or consists of digits like one. -/
def isNumeric (part : List Char) : Bool :=
  !part.isEmpty && part.all Char.isDigit || (number? part).isSome

/-- A name has to be read as an address: its last part is a number. -/
def isSpelledBy (name : List Char) : Bool :=
  match (partsOf name).getLast? with
  | some part => isNumeric part
  | none => false

/-! ## Reading and writing -/

/-- The number of octets that are left to numbers: each takes one, and the last one all the rest.
`room` is the count of numbers that fit in. -/
def fill? (room : Nat) : List Nat → Option Nat
  | [] => none
  | [n] => if n < room then some n else none
  | n :: ns =>
    if n < 256 then (fill? (room / 256) ns).map (n * (room / 256) + ·) else none

/-- The address that a name spells. -/
def ofName? (name : List Char) : Option Address4 := do
  let numbers ← (partsOf name).mapM number?
  if 4 < numbers.length then none
  else
    let value ← fill? 0x100000000 numbers
    return ⟨UInt32.ofNat value⟩

/-- The four octets. -/
def octets (a : Address4) : List Nat :=
  let n := a.value.toNat
  [n / 0x1000000, n / 0x10000 % 256, n / 0x100 % 256, n % 256]

/-- The four octets with dots between them. -/
def text (a : Address4) : String :=
  ".".intercalate (a.octets.map toString)

end Address4

end HttpStub
