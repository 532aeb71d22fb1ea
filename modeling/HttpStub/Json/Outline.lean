import HttpStub.Text.Ascii
import HttpStub.Json.Value
import HttpStub.Text.Utf8

/-!
# The outline of a JSON text

A JSON text is read in two steps. The first one, in this file, finds its outline: values as they
are spelled, up to the first place where the text breaks the grammar. The second one decodes the
outline into a type, and reports the first problem in the order of the text. Members that no type
asks for are only checked for grammar.

## Main definitions

* `HttpStub.Json.Outline` — a value as it is spelled, perhaps broken off.
* `HttpStub.Json.Reading` — the outline of a text, and whether anything follows it.
* `HttpStub.Json.Reading.ofBytes` — the outline of an octet string.
* `HttpStub.Json.Outline.wellFormed` — nothing is broken off.

## Design

A text that breaks the grammar still has an outline: the array or object where it happens is left
open, and `broken` stands for a value that cannot be read. A string is `none` if it is spelled with
well-formed escapes but holds damaged octets or half of a surrogate pair.
-/

namespace HttpStub.Json

/-- A value as it is spelled. -/
inductive Outline where
  | null
  | bool (b : Bool)
  | number (l : Literal)
  | string (s : Option String)
  | array (items : List Outline) (closed : Bool)
  | object (members : List (Option String × Outline)) (closed : Bool)
  | broken

instance : Inhabited Outline := ⟨.broken⟩

/-- The characters of a text, with `none` for each damaged piece. -/
abbrev Marks := List (Option Char)

/-! ## Blanks and words -/

/-- The blanks between the parts of a text. -/
def isBlankMark : Option Char → Bool
  | some c => c == ' ' || c == '\t' || c == '\n' || c == '\r'
  | none => false

/-- The text without the blanks at its start. -/
def skipBlanks (s : Marks) : Marks :=
  s.dropWhile isBlankMark

/-- The text after a word, if it starts with it. -/
def expect : List Char → Marks → Option Marks
  | [], s => some s
  | c :: cs, some d :: s => if c = d then expect cs s else none
  | _ :: _, _ => none

/-! ## Strings -/

/-- What a string is spelled with: characters, numbers of escapes, and damaged pieces. -/
inductive Piece where
  | char (c : Char)
  | unit (n : Nat)
  | damaged
  deriving DecidableEq, Repr

/-- The number of four hexadecimal digits. -/
def hexUnit? (a b c d : Char) : Option Nat := do
  let a ← Ascii.hexDigit? a
  let b ← Ascii.hexDigit? b
  let c ← Ascii.hexDigit? c
  let d ← Ascii.hexDigit? d
  return ((a * 16 + b) * 16 + c) * 16 + d

/-- The character that a letter stands for after a backslash. -/
def simpleEscape? (c : Char) : Option Char :=
  if c = '"' then some '"'
  else if c = '\\' then some '\\'
  else if c = '/' then some '/'
  else if c = 'b' then some '\x08'
  else if c = 'f' then some '\x0c'
  else if c = 'n' then some '\n'
  else if c = 'r' then some '\r'
  else if c = 't' then some '\t'
  else none

/-- A piece in front of a string that has been read. -/
def pushPiece (p : Piece) (r : Option (List Piece × Marks)) : Option (List Piece × Marks) :=
  r.map fun (ps, rest) => (p :: ps, rest)

/-- The pieces of a string up to its closing quotation mark, and the text after it. -/
def readPieces : Marks → Option (List Piece × Marks)
  | [] => none
  | none :: s => pushPiece .damaged (readPieces s)
  | some c :: s =>
    if c = '"' then some ([], s)
    else if c = '\\' then
      match s with
      | some 'u' :: some h₁ :: some h₂ :: some h₃ :: some h₄ :: s' =>
        match hexUnit? h₁ h₂ h₃ h₄ with
        | some n => pushPiece (.unit n) (readPieces s')
        | none => none
      | some e :: s' =>
        match simpleEscape? e with
        | some x => pushPiece (.char x) (readPieces s')
        | none => none
      | _ => none
    else if c.toNat < 0x20 then none
    else pushPiece (.char c) (readPieces s)

/-- The first half of a surrogate pair. -/
def isHighUnit (n : Nat) : Bool :=
  0xD800 ≤ n && n ≤ 0xDBFF

/-- The second half of a surrogate pair. -/
def isLowUnit (n : Nat) : Bool :=
  0xDC00 ≤ n && n ≤ 0xDFFF

/-- The characters of a string, unless it holds a damaged piece or half of a surrogate pair. -/
def joinPieces : List Piece → Option (List Char)
  | [] => some []
  | .damaged :: _ => none
  | .char c :: ps => (joinPieces ps).map (c :: ·)
  | .unit n :: ps =>
    if isLowUnit n then none
    else if isHighUnit n then
      match ps with
      | .unit m :: ps' =>
        if isLowUnit m then
          (joinPieces ps').map (Char.ofNat (0x10000 + (n - 0xD800) * 0x400 + (m - 0xDC00)) :: ·)
        else none
      | _ => none
    else (joinPieces ps).map (Char.ofNat n :: ·)

/-- A string after its opening quotation mark, and the text after it. -/
def readString (s : Marks) : Option (Option String × Marks) :=
  (readPieces s).map fun (ps, rest) => ((joinPieces ps).map String.ofList, rest)

/-! ## Numbers -/

/-- The value of a decimal digit. -/
def decimalDigit? (c : Char) : Option Nat :=
  if '0' ≤ c ∧ c ≤ '9' then some (c.toNat - 48) else none

/-- The digits at the start of a text, and the text after them. -/
def readDigits : Marks → List Nat × Marks
  | some c :: s =>
    match decimalDigit? c with
    | some d =>
      let (ds, rest) := readDigits s
      (d :: ds, rest)
    | none => ([], some c :: s)
  | s => ([], s)

/-- The sign at the start of an exponent: it is a minus sign, and the text after it. -/
def readSign : Marks → Bool × Marks
  | some c :: s =>
    if c = '-' then (true, s) else if c = '+' then (false, s) else (false, some c :: s)
  | s => (false, s)

/-- The part of a number behind a point. -/
def readFraction : Marks → Option (Option (List Nat) × Marks)
  | some c :: s =>
    if c = '.' then
      match readDigits s with
      | ([], _) => none
      | (ds, rest) => some (some ds, rest)
    else some (none, some c :: s)
  | s => some (none, s)

/-- The exponent of a number. -/
def readExponent : Marks → Option (Option (Bool × List Nat) × Marks)
  | some c :: s =>
    if c = 'e' ∨ c = 'E' then
      let (minus, s') := readSign s
      match readDigits s' with
      | ([], _) => none
      | (ds, rest) => some (some (minus, ds), rest)
    else some (none, some c :: s)
  | s => some (none, s)

/-- A number without its sign, and the text after it. A zero at the front stands alone. -/
def readUnsigned (negative : Bool) (s : Marks) : Option (Literal × Marks) :=
  match readDigits s with
  | ([], _) => none
  | (0 :: _ :: _, _) => none
  | (ds, rest) => do
    let (fraction, rest) ← readFraction rest
    let (exponent, rest) ← readExponent rest
    return (⟨negative, ds, fraction, exponent⟩, rest)

/-- A number, and the text after it. -/
def readNumber : Marks → Option (Literal × Marks)
  | some c :: s => if c = '-' then readUnsigned true s else readUnsigned false (some c :: s)
  | s => readUnsigned false s

/-! ## Values -/

/-- What a part of the reader has read: its result, and the text after it unless the text is
broken off here. -/
abbrev Read (α : Type) := α × Option Marks

/-- A value that is spelled by a word. -/
def readWord (word : List Char) (o : Outline) (s : Marks) : Read Outline :=
  match expect word s with
  | some rest => (o, some rest)
  | none => (.broken, none)

mutual

/-- A value, and the text after it. -/
def readValue : Nat → Marks → Read Outline
  | 0, _ => (.broken, none)
  | fuel + 1, s =>
    match skipBlanks s with
    | some c :: rest =>
      if c = 'n' then readWord ['u', 'l', 'l'] .null rest
      else if c = 't' then readWord ['r', 'u', 'e'] (.bool true) rest
      else if c = 'f' then readWord ['a', 'l', 's', 'e'] (.bool false) rest
      else if c = '"' then
        match readString rest with
        | some (t, rest) => (.string t, some rest)
        | none => (.broken, none)
      else if c = '[' then
        match skipBlanks rest with
        | some ']' :: rest => (.array [] true, some rest)
        | rest =>
          match readItems fuel rest with
          | (items, some rest) => (.array items true, some rest)
          | (items, none) => (.array items false, none)
      else if c = '\x7b' then
        match skipBlanks rest with
        | some '\x7d' :: rest => (.object [] true, some rest)
        | rest =>
          match readMembers fuel rest with
          | (members, some rest) => (.object members true, some rest)
          | (members, none) => (.object members false, none)
      else
        match readNumber (some c :: rest) with
        | some (l, rest) => (.number l, some rest)
        | none => (.broken, none)
    | _ => (.broken, none)

/-- The members of an array up to its closing bracket. -/
def readItems : Nat → Marks → Read (List Outline)
  | 0, _ => ([], none)
  | fuel + 1, s =>
    match readValue fuel s with
    | (item, none) => ([item], none)
    | (item, some rest) =>
      match skipBlanks rest with
      | some ',' :: rest =>
        let (items, rest) := readItems fuel rest
        (item :: items, rest)
      | some ']' :: rest => ([item], some rest)
      | _ => ([item], none)

/-- The members of an object up to its closing brace. -/
def readMembers : Nat → Marks → Read (List (Option String × Outline))
  | 0, _ => ([], none)
  | fuel + 1, s =>
    match skipBlanks s with
    | some '"' :: rest =>
      match readString rest with
      | none => ([], none)
      | some (key, rest) =>
        match skipBlanks rest with
        | some ':' :: rest =>
          match readValue fuel rest with
          | (value, none) => ([(key, value)], none)
          | (value, some rest) =>
            match skipBlanks rest with
            | some ',' :: rest =>
              let (members, rest) := readMembers fuel rest
              ((key, value) :: members, rest)
            | some '\x7d' :: rest => ([(key, value)], some rest)
            | _ => ([(key, value)], none)
        | _ => ([(key, .broken)], none)
    | _ => ([], none)

end

/-! ## Whole texts -/

/-- The outline of a text. It is complete if nothing but blanks follows the value. -/
structure Reading where
  outline : Outline
  complete : Bool

/-- The outline of a text. Each bracket takes two units of fuel, each character of a text one
bracket at most. -/
def Reading.ofMarks (s : Marks) : Reading :=
  match readValue (2 * s.length + 2) s with
  | (o, some rest) => ⟨o, (skipBlanks rest).isEmpty⟩
  | (o, none) => ⟨o, false⟩

/-- The outline of an octet string. -/
def Reading.ofBytes (bs : Bytes) : Reading :=
  Reading.ofMarks (Utf8.scan bs)

/-- The outline of a text. -/
def Reading.ofString (s : String) : Reading :=
  Reading.ofMarks (s.toList.map some)

mutual

/-- Nothing in the outline is broken off. -/
def Outline.wellFormed : Outline → Bool
  | .array items closed => closed && itemsWellFormed items
  | .object members closed => closed && membersWellFormed members
  | .broken => false
  | _ => true

/-- Nothing in the members of an array is broken off. -/
def itemsWellFormed : List Outline → Bool
  | [] => true
  | o :: os => o.wellFormed && itemsWellFormed os

/-- Nothing in the members of an object is broken off. -/
def membersWellFormed : List (Option String × Outline) → Bool
  | [] => true
  | (_, o) :: ms => o.wellFormed && membersWellFormed ms

end

end HttpStub.Json
