/-!
# Letters and digits of ASCII

Methods, header names and media types compare without regard to the case of the letters `A` to
`Z`. No other character changes.

## Main definitions

* `HttpStub.Ascii.lower` — a text in small letters.
* `HttpStub.Ascii.sameText` — equality up to the case of ASCII letters.
* `HttpStub.Ascii.hexDigit?` — the value of a hexadecimal digit.
-/

namespace HttpStub.Ascii

/-- The text with `A` to `Z` in lower case. -/
def lower (s : String) : String :=
  String.ofList (s.toList.map Char.toLower)

/-- Two texts differ at most in the case of ASCII letters. -/
def sameText (a b : String) : Bool :=
  lower a == lower b

/-- The value of a hexadecimal digit, whose letters are of either case. -/
def hexDigit? (c : Char) : Option Nat :=
  if c.isDigit then some (c.toNat - 48)
  else if 'a' ≤ c ∧ c ≤ 'f' then some (c.toNat - 87)
  else if 'A' ≤ c ∧ c ≤ 'F' then some (c.toNat - 55)
  else none

/-- A blank in the sense of ASCII: space, tab, line feed, form feed and carriage return. -/
def isBlank (b : UInt8) : Bool :=
  b == 0x20 || b == 0x09 || b == 0x0A || b == 0x0C || b == 0x0D

/-- Each text equals itself up to letter case. -/
@[simp] theorem sameText_self (a : String) : sameText a a = true := by
  simp [sameText]

/-- Equality up to letter case is equality of the texts in small letters. -/
theorem sameText_iff {a b : String} : sameText a b = true ↔ lower a = lower b := by
  simp [sameText]

end HttpStub.Ascii
