import HttpStub.Regex.Unicode.Name
import HttpStub.Text.Ascii

/-!
# Flags and escapes of patterns

## Main definitions

* `HttpStub.Regex.Flags` — what `(?i)` and its like switch on.
* `HttpStub.Regex.Flags.trim` — the text from its next significant character on.
* `HttpStub.Regex.readProperty?` — the class of a property after `p` or `P`.
* `HttpStub.Regex.Escape` — what a backslash and the characters after it stand for.
* `HttpStub.Regex.readEscape?` — the escape after a backslash.

## Design

Where the flags allow blanks and comments between the parts of a pattern, they are also allowed
inside escapes, so that every step that moves on also trims. `fuel` bounds the number of steps.
-/

namespace HttpStub.Regex

/-! ## Flags -/

/-- What the flags of a pattern switch on. -/
structure Flags where
  ignoreCase : Bool
  multiLine : Bool
  dotAll : Bool
  anyLineEnd : Bool
  unicode : Bool
  spaced : Bool
  deriving DecidableEq, Repr

namespace Flags

/-- The flags at the start of a pattern. -/
def initial : Flags := ⟨false, false, false, false, true, false⟩

/-- A flag switched on or off. Which of several matches is preferred changes no answer. -/
def set? (f : Flags) (on : Bool) : Char → Option Flags
  | 'i' => some { f with ignoreCase := on }
  | 'm' => some { f with multiLine := on }
  | 's' => some { f with dotAll := on }
  | 'R' => some { f with anyLineEnd := on }
  | 'u' => some { f with unicode := on }
  | 'x' => some { f with spaced := on }
  | 'U' => some f
  | _ => none

/-- Which letters stand for both cases. -/
def casing (f : Flags) : Casing :=
  if !f.ignoreCase then .exact else if f.unicode then .full else .ascii

/-- Which characters make up words. -/
def alphabet (f : Flags) : Alphabet :=
  if f.unicode then .full else .ascii

/-- How lines end. -/
def lineEnding (f : Flags) : LineEnd :=
  if f.anyLineEnd then .any else .feed

/-- The complement of a set. Only with all of Unicode does it hold whole characters. -/
def complement? (f : Flags) (s : CharSet) : Option CharSet :=
  if f.unicode then some (.not s) else none

/-- What a dot stands for. -/
def dot? (f : Flags) : Option CharSet :=
  if !f.unicode then none
  else if f.dotAll then some .all
  else
    match f.lineEnding with
    | .feed => some (.not (.single .exact '\n'))
    | .any => some (.not (.union (.single .exact '\n') (.single .exact '\r')))

/-- What `^` stands for. -/
def lineStart (f : Flags) : Look :=
  if f.multiLine then .lineStart f.lineEnding else .textStart

/-- What `$` stands for. -/
def lineEnd (f : Flags) : Look :=
  if f.multiLine then .lineEnd f.lineEnding else .textEnd

end Flags

/-! ## Blanks and comments -/

/-- Without the rest of a comment. -/
def dropComment : List Char → List Char
  | [] => []
  | c :: cs => if c = '\n' then cs else dropComment cs

/-- Without blanks and comments at the start; `fuel` bounds the number of comments. -/
def dropSpace : Nat → List Char → List Char
  | 0, s => s
  | fuel + 1, s =>
    match s.dropWhile Text.isBlank with
    | '#' :: cs => dropSpace fuel (dropComment cs)
    | s => s

/-- Without blanks and comments at the start, if the flags allow them between the parts. -/
def Flags.trim (f : Flags) (s : List Char) : List Char :=
  if f.spaced then dropSpace (s.length + 1) s else s

/-! ## Digits -/

/-- The character of a code point. -/
def charOf? (n : Nat) : Option Char :=
  if n.isValidChar then some (Char.ofNat n) else none

/-- The number that so many hexadecimal digits spell after the ones that are read. -/
def readHexDigits? (f : Flags) : Nat → Nat → List Char → Option (Nat × List Char)
  | 0, acc, s => some (acc, s)
  | _ + 1, _, [] => none
  | n + 1, acc, c :: s =>
    (Ascii.hexDigit? c).bind fun d => readHexDigits? f n (acc * 16 + d) (f.trim s)

/-- The number that hexadecimal digits spell up to a closing brace, after the ones that are read.
At least one digit is needed. -/
def readHexBraces? (f : Flags) : Nat → Option Nat → List Char → Option (Nat × List Char)
  | 0, _, _ => none
  | _ + 1, _, [] => none
  | fuel + 1, acc, c :: s =>
    if c = '\x7d' then acc.map fun n => (n, s)
    else (Ascii.hexDigit? c).bind fun d =>
      readHexBraces? f fuel (some (acc.getD 0 * 16 + d)) (f.trim s)

/-! ## Escapes -/

/-- What an escape stands for. -/
inductive Escape where
  /-- A character; `octet` tells that two hexadecimal digits name it. -/
  | char (c : Char) (octet : Bool)
  | set (s : CharSet)
  | look (l : Look)
  deriving DecidableEq, Repr

/-- The character of an escape in hexadecimal digits: so many of them, or any number in braces. -/
def readHex? (f : Flags) (count : Nat) (s : List Char) : Option (Escape × List Char) :=
  match f.trim s with
  | '\x7b' :: cs => do
    let (n, rest) ← readHexBraces? f (cs.length + 1) none (f.trim cs)
    return (.char (← charOf? n) false, rest)
  | cs => do
    let (n, rest) ← readHexDigits? f count 0 cs
    return (.char (← charOf? n) (count == 2), rest)

/-- The condition that stands in braces after `\b`. -/
def boundaryOf? (a : Alphabet) (name : String) : Option Look :=
  match name with
  | "start" => some (.wordStart a)
  | "end" => some (.wordEnd a)
  | "start-half" => some (.wordStartHalf a)
  | "end-half" => some (.wordEndHalf a)
  | _ => none

/-- A character of the name of a boundary. -/
def isBoundaryChar (c : Char) : Bool :=
  c.isAlpha || c == '-'

/-- The name of a boundary, and the text after it. -/
def readBoundaryName (f : Flags) : Nat → List Char → List Char × List Char
  | 0, s => ([], s)
  | _ + 1, [] => ([], [])
  | fuel + 1, c :: s =>
    if isBoundaryChar c then
      let (name, rest) := readBoundaryName f fuel (f.trim s)
      (c :: name, rest)
    else ([], c :: s)

/-- A word boundary, after its letter: perhaps one with a name in braces. Other braces are left to
be the bounds of a repetition. -/
def readBoundary? (f : Flags) (s : List Char) : Option (Escape × List Char) :=
  match s with
  | '\x7b' :: cs =>
    match readBoundaryName f (cs.length + 1) (f.trim cs) with
    | ([], _) => some (.look (.wordBoundary f.alphabet), s)
    | (name, '\x7d' :: rest) =>
      (boundaryOf? f.alphabet (String.ofList name)).map fun l => (.look l, rest)
    | _ => none
  | s => some (.look (.wordBoundary f.alphabet), s)

/-- The set of a letter after a backslash. -/
def letterSet (f : Flags) (full : CharSet) (narrow : NamedClass) : CharSet :=
  if f.unicode then full else .named .exact narrow

/-! ### Properties -/

/-- The text up to a closing brace, and the text after it. -/
def readBraced? (f : Flags) : Nat → List Char → Option (List Char × List Char)
  | 0, _ => none
  | _ + 1, [] => none
  | fuel + 1, c :: s =>
    if c = '\x7d' then some ([], s)
    else (readBraced? f fuel (f.trim s)).map fun (text, rest) => (c :: text, rest)

/-- The text before and after the first `!=`. -/
def cutUnequal? : List Char → Option (List Char × List Char)
  | '!' :: '=' :: cs => some ([], cs)
  | c :: cs => (cutUnequal? cs).map fun (before, after) => (c :: before, after)
  | [] => none

/-- The set of the text between braces: a name, or a name and a value. How the two are joined
makes no difference: `!=` reads like `=`. -/
def namedSet? (text : List Char) : Option CharSet :=
  match cutUnequal? text <|> Text.cut? ':' text <|> Text.cut? '=' text with
  | some (name, value) => valueSet? name value
  | none => propertySet? text

/-- The set of a property after `p` or `P`: its name in braces, or one letter. -/
def readNamedSet? (f : Flags) (s : List Char) : Option (CharSet × List Char) :=
  match f.trim s with
  | '\x7b' :: cs => do
    let (text, rest) ← readBraced? f (cs.length + 1) (f.trim cs)
    return (← namedSet? text, rest)
  | '\\' :: _ => none
  | c :: cs => (propertySet? [c]).map fun t => (t, cs)
  | [] => none

/-- The class of a property. It is there with all of Unicode only, and it is closed under change of
case before it is negated. -/
def readProperty? (f : Flags) (negated : Bool) (s : List Char) : Option (Escape × List Char) := do
  if !f.unicode then none
  let (t, rest) ← readNamedSet? f s
  let closed := CharSet.close f.casing t
  return (.set (if negated then .not closed else closed), rest)

/-! ### All escapes -/

/-- A character that may follow a backslash to stand for itself. -/
def standsForItself (c : Char) : Bool :=
  c.toNat < 0x80 && !c.isAlphanum && c != '<' && c != '>'

/-- What follows a backslash. -/
def readEscape? (f : Flags) : List Char → Option (Escape × List Char)
  | [] => none
  | c :: s =>
    match c with
    | 'd' => some (.set (letterSet f .digit .digit), s)
    | 'D' => (f.complement? .digit).map fun t => (.set t, s)
    | 's' => some (.set (letterSet f .space .space), s)
    | 'S' => (f.complement? .space).map fun t => (.set t, s)
    | 'w' => some (.set (letterSet f .word .word), s)
    | 'W' => (f.complement? .word).map fun t => (.set t, s)
    | 'p' => readProperty? f false s
    | 'P' => readProperty? f true s
    | 'a' => some (.char '\x07' false, s)
    | 'f' => some (.char '\x0c' false, s)
    | 't' => some (.char '\t' false, s)
    | 'n' => some (.char '\n' false, s)
    | 'r' => some (.char '\r' false, s)
    | 'v' => some (.char '\x0b' false, s)
    | 'A' => some (.look .textStart, s)
    | 'z' => some (.look .textEnd, s)
    | 'b' => readBoundary? f s
    | 'B' => some (.look (.notWordBoundary f.alphabet), s)
    | '<' => some (.look (.wordStart f.alphabet), s)
    | '>' => some (.look (.wordEnd f.alphabet), s)
    | 'x' => readHex? f 2 s
    | 'u' => readHex? f 4 s
    | 'U' => readHex? f 8 s
    | c => if standsForItself c then some (.char c false, s) else none

end HttpStub.Regex
