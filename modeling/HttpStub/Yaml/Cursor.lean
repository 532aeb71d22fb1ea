import HttpStub.Text.Utf8

/-!
# Places in a YAML text

## Main definitions

* `HttpStub.Yaml.isBlank`, `HttpStub.Yaml.isBreak` — blanks inside a line, and ends of lines.
* `HttpStub.Yaml.Cursor` — a place in a text: what follows, and its line and column.
* `HttpStub.Yaml.Cursor.ofText?` — the start of a text.

## Design

The spellings of a line feed are made one before anything else is read. The two separators of
Unicode also end lines, but stay as they are.
-/

namespace HttpStub.Yaml

/-! ## Characters -/

/-- A blank inside a line. -/
def isBlank (c : Char) : Bool :=
  c == ' ' || c == '\t'

/-- The end of a line. -/
def isBreak (c : Char) : Bool :=
  c == '\n' || c == '\u2028' || c == '\u2029'

/-- A blank or the end of a line. -/
def isGap (c : Char) : Bool :=
  isBlank c || isBreak c

/-- The text ends here, or a blank or the end of a line follows. -/
def atGap : List Char → Bool
  | [] => true
  | c :: _ => isGap c

/-- A character of a name: a letter or digit of ASCII, a low line or a dash. -/
def isNameChar (c : Char) : Bool :=
  c.isAlphanum || c == '_' || c == '-'

/-- A character that structures flow collections. -/
def isFlowMark (c : Char) : Bool :=
  c == ',' || c == '[' || c == ']' || c == '\x7b' || c == '\x7d'

/-- A character that a text may hold. -/
def isPrintable (c : Char) : Bool :=
  let n := c.toNat
  n == 0x9 || n == 0xA || n == 0xD || (0x20 ≤ n && n ≤ 0x7E) || n == 0x85
    || (0xA0 ≤ n && n != 0xFFFE && n != 0xFFFF)

/-- The text with one spelling of the end of a line. -/
def unifyBreaks : List Char → List Char
  | [] => []
  | '\r' :: '\n' :: s => '\n' :: unifyBreaks s
  | c :: s => (if c = '\r' ∨ c = '\u0085' then '\n' else c) :: unifyBreaks s

/-! ## Places -/

/-- A place in a text. -/
structure Cursor where
  rest : List Char
  line : Nat
  column : Nat
  deriving DecidableEq, Repr

namespace Cursor

/-- The start of a text, if it holds no other characters than it may. -/
def ofText? (s : String) : Option Cursor :=
  if s.toList.all isPrintable then some ⟨unifyBreaks s.toList, 0, 0⟩ else none

/-- The place after the next character. -/
def next (p : Cursor) : Cursor :=
  match p.rest with
  | [] => p
  | c :: s => if isBreak c then ⟨s, p.line + 1, 0⟩ else ⟨s, p.line, p.column + 1⟩

/-- The place after some more characters. -/
def skip : Nat → Cursor → Cursor
  | 0, p => p
  | n + 1, p => skip n p.next

/-- The characters from here on that have a property. -/
def run (p : Cursor) (f : Char → Bool) : List Char :=
  p.rest.takeWhile f

/-- The place after the characters that have a property. -/
def skipWhile (p : Cursor) (f : Char → Bool) : Cursor :=
  p.skip (p.run f).length

/-- The next character is this one. -/
def sees (p : Cursor) (c : Char) : Bool :=
  p.rest.head? == some c

/-- A mark of the start or the end of a document stands here. -/
def atMark (p : Cursor) : Bool :=
  p.column == 0 &&
    match p.rest with
    | '-' :: '-' :: '-' :: s => atGap s
    | '.' :: '.' :: '.' :: s => atGap s
    | _ => false

/-- The place after a comment, or the same place. -/
def skipComment (p : Cursor) : Cursor :=
  if p.sees '#' then p.skipWhile fun c => !isBreak c else p

/-- The start of the next line, if no more than blanks and a comment come before it. -/
def lineEnd? (p : Cursor) : Option Cursor :=
  let p := (p.skipWhile isBlank).skipComment
  match p.rest with
  | [] => some p
  | c :: _ => if isBreak c then some p.next else none

end Cursor

/-! ## Gaps -/

/-- What the blanks and ends of lines between two words stand for. Within a line they stand for
themselves. The first end of a line stands for a blank, or for nothing if others follow, and blanks
beside ends of lines do not count. -/
def foldGap (gap : List Char) : List Char :=
  match gap.filter isBreak with
  | [] => gap
  | ['\n'] => [' ']
  | '\n' :: bs => bs
  | bs => bs

end HttpStub.Yaml
