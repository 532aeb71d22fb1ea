import HttpStub.Regex.Class

/-!
# Regular expressions

## Main definitions

* `HttpStub.Regex.Casing` — which letters stand for both cases.
* `HttpStub.Regex.CharSet` — a set of characters as a class describes it.
* `HttpStub.Regex.CharSet.contains` — membership.
* `HttpStub.Regex.Look` — a condition on a place between two characters.
* `HttpStub.Regex.Node` — a regular expression.

## Design

Whether letter case counts is decided at the ends of a class description: a range without regard
to case is closed under change of case, and so is every set that is built from such ranges. A set
that is given by its name is closed as a whole.
-/

namespace HttpStub.Regex

/-! ## Letter case -/

/-- Which letters stand for both cases. -/
inductive Casing where
  /-- Each letter stands for itself. -/
  | exact
  /-- The letters of ASCII stand for both cases. -/
  | ascii
  /-- All letters stand for all their cases. -/
  | full
  deriving DecidableEq, Repr

/-- The characters that differ from `c` in letter case only, `c` among them. -/
def variants (c : Char) : List Char :=
  let f := foldCase c
  let ascii := if f.isLower then [f.toUpper] else []
  let others := foldShifts.toList.filterMap fun s =>
    let n : Int := (f.toNat : Int) - s.distance
    if 0x80 ≤ n ∧ s.moves n.toNat then some (Char.ofNat n.toNat) else Option.none
  c :: f :: ascii ++ others

/-- The characters that a character of a pattern stands for. -/
def Casing.variants : Casing → Char → List Char
  | .exact, c => [c]
  | .ascii, c => [c.toLower, c.toUpper]
  | .full, c => Regex.variants c

/-! ## Sets of characters -/

/-- A set of characters. -/
inductive CharSet where
  | none
  | all
  | range (casing : Casing) (low high : Char)
  | named (casing : Casing) (k : NamedClass)
  | digit
  | space
  | word
  /-- The code points of a table of ranges. -/
  | table (ranges : Array (Nat × Nat))
  /-- The characters that stand for one of the set. -/
  | close (casing : Casing) (s : CharSet)
  | not (s : CharSet)
  | union (s t : CharSet)
  | inter (s t : CharSet)
  deriving DecidableEq, Repr

namespace CharSet

/-- The set without another one. -/
def diff (s t : CharSet) : CharSet :=
  .inter s (.not t)

/-- The characters of exactly one of two sets. -/
def symmDiff (s t : CharSet) : CharSet :=
  .union (s.diff t) (t.diff s)

/-- The set of one character. -/
def single (casing : Casing) (c : Char) : CharSet :=
  .range casing c c

/-- The character belongs to the set. -/
def contains : CharSet → Char → Bool
  | .none, _ => false
  | .all, _ => true
  | .range casing low high, c => (casing.variants c).any fun d => low ≤ d && d ≤ high
  | .named casing k, c => (casing.variants c).any k.contains
  | .digit, c => isDigit c
  | .space, c => Text.isBlank c
  | .word, c => isWordChar c
  | .table ranges, c => Text.inRanges ranges c.toNat
  | .close casing s, c => (casing.variants c).any s.contains
  | .not s, c => !s.contains c
  | .union s t, c => s.contains c || t.contains c
  | .inter s t, c => s.contains c && t.contains c

end CharSet

/-! ## Conditions on places -/

/-- Which characters make up words. -/
inductive Alphabet where
  | ascii
  | full
  deriving DecidableEq, Repr

/-- The character belongs to a word. -/
def Alphabet.isWord : Alphabet → Char → Bool
  | .ascii, c => NamedClass.word.contains c
  | .full, c => isWordChar c

/-- How lines end. -/
inductive LineEnd where
  /-- A line feed. -/
  | feed
  /-- A line feed, a carriage return, or one after the other. -/
  | any
  deriving DecidableEq, Repr

/-- A condition on a place between two characters. -/
inductive Look where
  | textStart
  | textEnd
  | lineStart (e : LineEnd)
  | lineEnd (e : LineEnd)
  | wordBoundary (a : Alphabet)
  | notWordBoundary (a : Alphabet)
  | wordStart (a : Alphabet)
  | wordEnd (a : Alphabet)
  | wordStartHalf (a : Alphabet)
  | wordEndHalf (a : Alphabet)
  deriving DecidableEq, Repr

/-- The condition holds between the characters `before` and `after`. -/
def Look.holds (l : Look) (before after : Option Char) : Bool :=
  match l with
  | .textStart => before.isNone
  | .textEnd => after.isNone
  | .lineStart .feed => before.isNone || before == some '\n'
  | .lineStart .any =>
    before.isNone || before == some '\n' || (before == some '\r' && after != some '\n')
  | .lineEnd .feed => after.isNone || after == some '\n'
  | .lineEnd .any =>
    after.isNone || after == some '\r' || (after == some '\n' && before != some '\r')
  | .wordBoundary a => before.any a.isWord != after.any a.isWord
  | .notWordBoundary a => before.any a.isWord == after.any a.isWord
  | .wordStart a => !before.any a.isWord && after.any a.isWord
  | .wordEnd a => before.any a.isWord && !after.any a.isWord
  | .wordStartHalf a => !before.any a.isWord
  | .wordEndHalf a => !after.any a.isWord

/-! ## Expressions -/

/-- A regular expression. -/
inductive Node where
  /-- The empty text. -/
  | empty
  /-- One character of a set. -/
  | char (s : CharSet)
  /-- The empty text at a place with a property. -/
  | look (l : Look)
  /-- One after the other. -/
  | seq (a b : Node)
  /-- One or the other. -/
  | alt (a b : Node)
  /-- At least `min` and at most `max` times in a row. -/
  | times (a : Node) (min : Nat) (max : Option Nat)
  /-- A group whose place in the text is kept. -/
  | group (a : Node)
  deriving DecidableEq, Repr

end HttpStub.Regex
