import HttpStub.Text.Utf8

/-!
# Percent escapes

## Main definitions

* `HttpStub.Percent.unescape` — the octets of a text with each well-formed escape replaced.
* `HttpStub.Percent.decodeComponent` — a name or a value of a query as the text it stands for.
* `HttpStub.Percent.escape` — a text with the octets of some characters escaped.
* `HttpStub.Percent.isUnprintable` — the characters that never stand for themselves.

## Design

An escape is `%` with two hexadecimal digits. A `%` without them stands for itself.
-/

namespace HttpStub.Percent

/-- The value of a hexadecimal digit. -/
def hexValue? (b : UInt8) : Option UInt8 :=
  if 0x30 ≤ b && b ≤ 0x39 then some (b - 0x30)
  else if 0x41 ≤ b && b ≤ 0x46 then some (b - 0x41 + 10)
  else if 0x61 ≤ b && b ≤ 0x66 then some (b - 0x61 + 10)
  else none

/-- The octet that two hexadecimal digits stand for. -/
def octet? (high low : UInt8) : Option UInt8 := do
  let h ← hexValue? high
  let l ← hexValue? low
  return h * 16 + l

/-- Each well-formed escape replaced by its octet. -/
def unescape : Bytes → Bytes
  | [] => []
  | [b] => [b]
  | [b, c] => [b, c]
  | b :: h :: l :: rest =>
    if b = 0x25 then
      match octet? h l with
      | some o => o :: unescape rest
      | none => b :: unescape (h :: l :: rest)
    else b :: unescape (h :: l :: rest)

/-- A plus sign stands for a space in a query. -/
def plusToSpace (c : Char) : Char :=
  if c = '+' then ' ' else c

/-- The text that a name or a value of a query stands for. If its octets are no text, the raw
spelling stands for itself. -/
def decodeComponent (s : String) : String :=
  match Utf8.decode? (unescape (Utf8.encodeChars (s.toList.map plusToSpace))) with
  | some t => t
  | none => s

/-- The escape of an octet, with digits in upper case. -/
def escapeOctet (b : UInt8) : List Char :=
  ['%', (Nat.digitChar (b.toNat / 16)).toUpper, (Nat.digitChar (b.toNat % 16)).toUpper]

/-- The characters that never stand for themselves: controls and everything beyond ASCII. -/
def isUnprintable (c : Char) : Bool :=
  c.toNat < 0x20 || 0x7E < c.toNat

/-- A text with the octets of the characters for which `p` holds escaped. -/
def escape (p : Char → Bool) (cs : List Char) : List Char :=
  cs.flatMap fun c => if p c then (String.utf8EncodeChar c).flatMap escapeOctet else [c]

end HttpStub.Percent
