import HttpStub.Regex.Escape

/-!
# Classes in brackets

## Main definitions

* `HttpStub.Regex.Measured` — what is read, with how deep it nests.
* `HttpStub.Regex.readClass?` — the set of a class after its opening bracket.

## Design

A class is a list of items, joined by operators that group to the left. A list of at least two items
nests one deeper than its items, and so do an operator and a pair of brackets.
-/

namespace HttpStub.Regex

/-! ## Nesting -/

/-- What is read, with how deep it nests. -/
structure Measured (α : Type) where
  value : α
  depth : Nat
  deriving DecidableEq, Repr

/-- The deepest nesting that is accepted. -/
def maxNesting : Nat := 250

/-- The depth of a list of parts: that of its only part, or one more than the deepest part. -/
def listDepth {α : Type} : List (Measured α) → Nat
  | [] => 0
  | [m] => m.depth
  | ms => ms.foldl (fun d m => max d m.depth) 0 + 1

/-! ## Items -/

/-- A class with a name between `[:` and `:]`, after its opening bracket. -/
def readNamed? (s : List Char) : Option ((NamedClass × Bool) × List Char) :=
  match s with
  | ':' :: cs =>
    let (negated, cs) :=
      match cs with
      | '^' :: cs => (true, cs)
      | cs => (false, cs)
    let name := cs.takeWhile (· != ':')
    match cs.dropWhile (· != ':') with
    | ':' :: ']' :: rest =>
      (NamedClass.ofName? (String.ofList name)).map fun k => ((k, negated), rest)
    | _ => none
  | _ => none

/-- The complement of a set, if it is negated. -/
def negateIf? (f : Flags) (negated : Bool) (s : CharSet) : Option CharSet :=
  if negated then f.complement? s else some s

/-- A member of a class: a character, or a set of them. -/
def readClassItem? (f : Flags) (s : List Char) : Option (Escape × List Char) :=
  match s with
  | '\\' :: cs =>
    match readEscape? f cs with
    | some (.look _, _) => none
    | r => r
  | c :: cs => some (.char c false, cs)
  | [] => none

/-- The character that an end of a range is. Without all of Unicode it is one of ASCII. -/
def Escape.char? (f : Flags) : Escape → Option Char
  | .char c _ => if f.unicode || c.toNat < 0x80 then some c else none
  | _ => none

/-- The set of an item. -/
def Escape.toSet? (f : Flags) : Escape → Option CharSet
  | .set s => some s
  | e => (e.char? f).map fun c => .single f.casing c

/-- The character that decides whether a dash makes a range: the next one after blanks, a number
sign left out. -/
def afterDash? (f : Flags) (s : List Char) : Option Char :=
  if f.spaced then
    match s.dropWhile Text.isBlank with
    | '#' :: cs => (cs.dropWhile Text.isBlank).head?
    | cs => cs.head?
  else s.head?

/-- A range or a single item of a class. -/
def readRange? (f : Flags) (s : List Char) : Option (CharSet × List Char) := do
  let (first, rest) ← readClassItem? f s
  match f.trim rest with
  | [] => none
  | '-' :: after =>
    if afterDash? f after = some ']' ∨ afterDash? f after = some '-' then
      return (← first.toSet? f, '-' :: after)
    else
      let (last, rest) ← readClassItem? f (f.trim after)
      let low ← first.char? f
      let high ← last.char? f
      if high < low then none else return (.range f.casing low high, rest)
  | rest => return (← first.toSet? f, rest)

/-! ## Operators -/

/-- An operator between two parts of a class. -/
inductive SetOp where
  | inter
  | diff
  | symmDiff
  deriving DecidableEq, Repr

/-- The set of an operator and its two sides. -/
def SetOp.apply : SetOp → CharSet → CharSet → CharSet
  | .inter, s, t => .inter s t
  | .diff, s, t => s.diff t
  | .symmDiff, s, t => s.symmDiff t

/-- The part of a class that has been read: the side before an open operator, and the items of the
side that is being read, the last one first. -/
structure Partial where
  pending : Option (SetOp × Measured CharSet)
  items : List (Measured CharSet)
  deriving DecidableEq, Repr

/-- The class before its first item. -/
def Partial.start : Partial := ⟨none, []⟩

/-- The union of items. -/
def unionOf : List (Measured CharSet) → CharSet
  | [] => .none
  | [m] => m.value
  | m :: ms => .union (unionOf ms) m.value

/-- The set of what has been read. -/
def Partial.close (p : Partial) : Measured CharSet :=
  let right : Measured CharSet := ⟨unionOf p.items, listDepth p.items⟩
  match p.pending with
  | some (op, left) => ⟨op.apply left.value right.value, max left.depth right.depth + 1⟩
  | none => right

/-- One more item. -/
def Partial.add (p : Partial) (m : Measured CharSet) : Partial :=
  { p with items := m :: p.items }

/-- One more item that holds no brackets. -/
def Partial.addSet (p : Partial) (s : CharSet) : Partial :=
  p.add ⟨s, 0⟩

/-- An operator after what has been read. -/
def Partial.operator (p : Partial) (op : SetOp) : Partial :=
  ⟨some (op, p.close), []⟩

/-! ## Whole classes -/

/-- Dashes at the start of a class, which stand for themselves. -/
def leadingDashes (f : Flags) : Nat → List Char → Partial → Partial × List Char
  | fuel + 1, '-' :: cs, p => leadingDashes f fuel (f.trim cs) (p.addSet (.single .exact '-'))
  | _, cs, p => (p, cs)

/-- The start of a class after its opening bracket: whether it is negated, and the characters that
stand for themselves at this place. -/
def openClass (f : Flags) (s : List Char) : Bool × Partial × List Char :=
  let s := f.trim s
  let (negated, s) :=
    match s with
    | '^' :: cs => (true, f.trim cs)
    | cs => (false, cs)
  let (p, s) := leadingDashes f s.length s .start
  match p.items, s with
  | [], ']' :: cs => (negated, p.addSet (.single .exact ']'), f.trim cs)
  | _, s => (negated, p, s)

mutual

/-- A class after its opening bracket, in so many other classes. -/
def readClass? : Nat → Flags → Nat → List Char → Option (Measured CharSet × List Char)
  | 0, _, _, _ => none
  | fuel + 1, f, nesting, s => do
    if maxNesting ≤ nesting then none
    let (negated, p, s) := openClass f s
    let (m, rest) ← readClassItems? fuel f nesting p s
    let set ← negateIf? f negated m.value
    return (⟨set, m.depth + 1⟩, rest)

/-- The items of a class up to its closing bracket. -/
def readClassItems? :
    Nat → Flags → Nat → Partial → List Char → Option (Measured CharSet × List Char)
  | 0, _, _, _, _ => none
  | fuel + 1, f, nesting, p, s =>
    match f.trim s with
    | [] => none
    | ']' :: rest => some (p.close, rest)
    | '[' :: rest =>
      match readNamed? rest with
      | some ((k, negated), rest) => do
        let set ← negateIf? f negated (.named f.casing k)
        readClassItems? fuel f nesting (p.addSet set) rest
      | none => do
        let (m, rest) ← readClass? fuel f (nesting + 1) rest
        readClassItems? fuel f nesting (p.add m) rest
    | '&' :: '&' :: rest => readClassItems? fuel f nesting (p.operator .inter) rest
    | '-' :: '-' :: rest => readClassItems? fuel f nesting (p.operator .diff) rest
    | '~' :: '~' :: rest => readClassItems? fuel f nesting (p.operator .symmDiff) rest
    | s => do
      let (set, rest) ← readRange? f s
      readClassItems? fuel f nesting (p.addSet set) rest

end

end HttpStub.Regex
