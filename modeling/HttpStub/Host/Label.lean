import HttpStub.Host.Punycode
import HttpStub.Host.Spelling
import HttpStub.Text.CombiningClass
import HttpStub.Text.Direction
import HttpStub.Text.Joining
import HttpStub.Text.Normal

/-!
# Labels of host names

A label is a part of a name between dots. It is written in ASCII, and stands for a text in any
script.

## Main definitions

* `HttpStub.Host.Label` — a label: what it stands for and how it is written.
* `HttpStub.Host.Label.ofChars?` — the label that plain characters spell.
* `HttpStub.Host.Label.isOrdered` — scripts of both directions do not mix in a label.

## Design

A text with characters beyond ASCII is written with `xn--` in front. A label that is given in this
form has to stand for a text that would be written so.
-/

namespace HttpStub.Host

/-! ## Characters -/

/-- The characters of ASCII that no name has. -/
def isRefused (c : Char) : Bool :=
  c.toNat ≤ 0x20 || c.toNat = 0x7F
    || ['%', '#', '/', ':', '<', '>', '?', '@', '[', '\\', ']', '^', '|'].contains c

/-- The first letter that joiners and marks do not hide joins in the given way. -/
def joins (joinsThere : Char → Bool) : List Char → Bool
  | [] => false
  | c :: cs =>
    if joinsThere c then true else if Text.isTransparent c then joins joinsThere cs else false

/-- The joiners stand where they make a difference: after a mark that takes away a vowel, or, for
the one that keeps letters apart, between letters that join. `before` are the characters in front,
the last one first. -/
def joinersFit (before : List Char) : List Char → Bool
  | [] => true
  | c :: cs =>
    let afterVirama := before.head?.any Text.isVirama
    let fits :=
      if c = '\u200d' then afterVirama
      else if c = '\u200c' then
        afterVirama || (joins Text.joinsNext before && joins Text.joinsPrevious cs)
      else true
    fits && joinersFit (c :: before) cs

/-! ## Labels -/

/-- A label of a name: the text that it stands for, and the ASCII characters that it is written
with. -/
structure Label where
  shown : List Char
  written : List Char
  deriving DecidableEq, Repr

namespace Label

/-- The characters in front of a text that is written in letters and digits. -/
def mark : List Char := ['x', 'n', '-', '-']

/-- A text that a label may stand for. -/
def mayStand (cs : List Char) : Bool :=
  !cs.any isRefused && !cs.head?.any Text.isMark && joinersFit [] cs
    && (cs.all Punycode.isAscii || cs.length ≤ 1000)

/-- The text that letters and digits after the mark stand for. -/
def shownBy? (digits : List Char) : Option (List Char) := do
  if digits.getLast?.all (· == '-') || 2000 < digits.length || !digits.all Punycode.isAscii then
    none
  else
    let cs ← Punycode.decode? digits
    if cs.all isPlain && Text.normalForm cs == cs && !cs.contains '.' then some cs else none

/-- The label that plain characters spell. -/
def ofChars? (cs : List Char) : Option Label := do
  let shown ← if mark.isPrefixOf cs then shownBy? (cs.drop mark.length) else some cs
  if !mayStand shown then none
  else if mark.isPrefixOf cs || cs.all Punycode.isAscii then return ⟨shown, cs⟩
  else return ⟨shown, mark ++ Punycode.encode cs⟩

/-! ## Directions -/

/-- A label that starts from left to right may hold these, and may end in the first two. -/
def leftKinds : List Text.Direction :=
  [.left, .europeanNumber, .neutral, .mark]

/-- A label that starts from right to left may hold these, and may end in the first three. -/
def rightKinds : List Text.Direction :=
  [.right, .arabicNumber, .europeanNumber, .neutral, .mark]

/-- The label is one for which the order of its characters on paper is clear: it starts with a
letter, holds letters of no other direction, does not end in a sign, and has digits of one kind if
it is written from right to left. -/
def isOrdered (l : Label) : Bool :=
  let kinds := l.shown.map Text.direction
  let last := (kinds.reverse.dropWhile (· == .mark)).head?
  match kinds.head? with
  | none => true
  | some .left => kinds.all leftKinds.contains && last.all (leftKinds.take 2).contains
  | some .right =>
    kinds.all rightKinds.contains && last.all (rightKinds.take 3).contains
      && !(kinds.contains .arabicNumber && kinds.contains .europeanNumber)
  | some _ => false

/-- The label holds something that is written from right to left. -/
def turns (l : Label) : Bool :=
  l.shown.any fun c => Text.direction c == .right || Text.direction c == .arabicNumber

end Label

end HttpStub.Host
