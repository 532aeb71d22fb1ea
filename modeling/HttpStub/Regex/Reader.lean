import HttpStub.Regex.Bracket
import HttpStub.Text.Alphanumeric

/-!
# Reading regular expressions

## Main definitions

* `HttpStub.Regex.readOpening?` — what stands after an opening parenthesis.
* `HttpStub.Regex.readBounds?` — how often a part is repeated.
* `HttpStub.Regex.parse?` — the regular expression of a pattern, if it is one.

## Design

Patterns that look around and patterns that refer back to a group are no regular expressions, and
are refused, and so are those that nest too deeply. Groups, repetitions, classes, sequences of at
least two parts and choices between at least two of them count as levels of nesting. Each part of
the reader returns the text that it leaves; `fuel` bounds the depth of the calls and is taken from
the length of the pattern.
-/

namespace HttpStub.Regex

/-! ## Groups -/

/-- A character of the name of a group. -/
def isNameChar (first : Bool) (c : Char) : Bool :=
  if first then c == '_' || Text.isAlphabetic c
  else c == '_' || c == '.' || c == '[' || c == ']' || Text.isAlphanumeric c

/-- The name of a group up to its closing angle bracket. -/
def readName? (s : List Char) : Option (String × List Char) :=
  let name := s.takeWhile (· != '>')
  match name, s.dropWhile (· != '>') with
  | c :: cs, _ :: rest =>
    if isNameChar true c && cs.all (isNameChar false) then some (String.ofList name, rest) else none
  | _, _ => none

/-- How a list of flags ends. -/
inductive FlagsEnd where
  /-- The flags hold for the rest of the enclosing group. -/
  | close
  /-- The flags hold for a group that follows. -/
  | group
  deriving DecidableEq, Repr

/-- A list of flags up to its end: the flags switched on so far are in `seen`, and `off` tells that
a minus sign has been read. -/
def readFlags? : Flags → Bool → List Char → List Char → Option (Flags × FlagsEnd × List Char)
  | f, off, seen, c :: s =>
    if c = ')' then
      if seen.isEmpty ∨ seen.head? = some '-' then none else some (f, .close, s)
    else if c = ':' then
      if seen.head? = some '-' then none else some (f, .group, s)
    else if c = '-' then
      if off then none else readFlags? f true ('-' :: seen) s
    else if seen.contains c then none
    else
      match f.set? (!off) c with
      | some g => readFlags? g off (c :: seen) s
      | none => none
  | _, _, _, [] => none

/-- What stands after an opening parenthesis. -/
inductive Opening where
  /-- Flags for the rest of the enclosing group. -/
  | flags (f : Flags)
  /-- A group with flags of its own. -/
  | plain (f : Flags)
  /-- A group whose place in the text is kept, perhaps under a name. -/
  | kept (name : Option String)
  deriving DecidableEq, Repr

/-- What stands after an opening parenthesis. Groups that look around are refused. -/
def readOpening? (f : Flags) (s : List Char) : Option (Opening × List Char) :=
  match f.trim s with
  | '?' :: '=' :: _ => none
  | '?' :: '!' :: _ => none
  | '?' :: '<' :: '=' :: _ => none
  | '?' :: '<' :: '!' :: _ => none
  | '?' :: 'P' :: '<' :: cs => (readName? cs).map fun (n, rest) => (.kept (some n), rest)
  | '?' :: '<' :: cs => (readName? cs).map fun (n, rest) => (.kept (some n), rest)
  | '?' :: cs =>
    match readFlags? f false [] cs with
    | some (g, .close, rest) => some (.flags g, rest)
    | some (g, .group, rest) => some (.plain g, rest)
    | none => none
  | cs => some (.kept none, cs)

/-! ## Repetitions -/

/-- The digits at the start as a number after the ones that are read, if there are any. -/
def readDigits (f : Flags) : Nat → Option Nat → List Char → Option Nat × List Char
  | 0, acc, s => (acc, s)
  | _ + 1, acc, [] => (acc, [])
  | fuel + 1, acc, c :: s =>
    if c.isDigit then readDigits f fuel (some (acc.getD 0 * 10 + (c.toNat - 48))) (f.trim s)
    else (acc, c :: s)

/-- The decimal number of 32 bits at the start, blanks around it left out. -/
def readCount? (f : Flags) (s : List Char) : Option (Nat × List Char) :=
  let s := s.dropWhile Text.isBlank
  let (count, rest) := readDigits f s.length none s
  (count.filter (· < 4294967296)).map fun n => (n, rest.dropWhile Text.isBlank)

/-- The bounds of a repetition in braces, after the opening one. -/
def readBounds? (f : Flags) (s : List Char) : Option (Nat × Option Nat × List Char) := do
  let (low, rest) ← readCount? f (f.trim s)
  match rest with
  | '\x7d' :: rest => return (low, some low, f.trim rest)
  | ',' :: rest =>
    match f.trim rest with
    | '\x7d' :: rest => return (low, none, f.trim rest)
    | rest => do
      let (high, rest) ← readCount? f rest
      match rest with
      | '\x7d' :: rest => if high < low then none else return (low, some high, f.trim rest)
      | _ => none
  | _ => none

/-- Without the mark of a lazy repetition. -/
def dropLazy : List Char → List Char
  | '?' :: cs => cs
  | cs => cs

/-! ## Expressions -/

/-- A part of a sequence: one that a repetition may follow, or a change of flags. -/
inductive Item where
  | part (m : Measured Node)
  | flags
  deriving DecidableEq, Repr

/-- The node of an item. -/
def Item.measured : Item → Measured Node
  | .part m => m
  | .flags => ⟨.empty, 0⟩

/-- One node after another. -/
def joined : Node → Node → Node
  | .empty, b => b
  | a, .empty => a
  | a, b => .seq a b

/-- The node of the items of a sequence, the last one first. -/
def sequenceOf (items : List Item) : Measured Node :=
  let ms := items.map Item.measured
  ⟨ms.foldl (fun n m => joined m.value n) .empty, listDepth ms⟩

/-- One of several nodes, the last one first. -/
def choiceOf : List (Measured Node) → Node
  | [] => .empty
  | [m] => m.value
  | m :: ms => .alt (choiceOf ms) m.value

/-- What a reader of an expression is told: the names of groups so far, the flags, the number of
open groups, the alternatives before this one and the items of this one, the last ones first. -/
structure State where
  names : List String
  flags : Flags
  depth : Nat
  before : List (Measured Node)
  items : List Item
  deriving DecidableEq, Repr

namespace State

/-- The node of the alternatives. -/
def close (st : State) : Measured Node :=
  let ms := sequenceOf st.items :: st.before
  ⟨choiceOf ms, listDepth ms⟩

/-- One more part. -/
def push (st : State) (m : Measured Node) : State :=
  { st with items := .part m :: st.items }

/-- One more part that holds no others. -/
def pushNode (st : State) (n : Node) : State :=
  st.push ⟨n, 0⟩

/-- Other flags from here on. -/
def change (st : State) (f : Flags) : State :=
  { st with flags := f, items := .flags :: st.items }

/-- The next alternative. -/
def next (st : State) : State :=
  { st with before := sequenceOf st.items :: st.before, items := [] }

/-- The last part repeated. -/
def repeat? (st : State) (min : Nat) (max : Option Nat) : Option State :=
  match st.items with
  | .part m :: items =>
    some { st with items := .part ⟨.times m.value min max, m.depth + 1⟩ :: items }
  | _ => none

/-- The state at the start of a group. -/
def enter (st : State) (f : Flags) (name : Option String) : State :=
  ⟨name.toList ++ st.names, f, st.depth + 1, [], []⟩

end State

/-- What an escape stands for outside a class. Without all of Unicode no octet names a character
beyond ASCII. -/
def Escape.toNode? (f : Flags) : Escape → Option Node
  | .char c octet =>
    if !f.unicode && octet && 0x80 ≤ c.toNat then none else some (.char (.single f.casing c))
  | .set s => some (.char s)
  | .look l => some (.look l)

/-- An expression up to the end of its group: its node, the names of groups so far, and the text
after the group. -/
def readNode? : Nat → State → List Char → Option (Measured Node × List String × List Char)
  | 0, _, _ => none
  | fuel + 1, st, s =>
    let group (f : Flags) (name : Option String) (rest : List Char) (wrap : Node → Node) := do
      if maxNesting ≤ st.depth ∨ name.any st.names.contains then none
      let (m, names, rest) ← readNode? fuel (st.enter f name) rest
      readNode? fuel { st.push ⟨wrap m.value, m.depth + 1⟩ with names := names } rest
    match st.flags.trim s with
    | [] => if st.depth = 0 then some (st.close, st.names, []) else none
    | c :: rest =>
      match c with
      | ')' => if st.depth = 0 then none else some (st.close, st.names, rest)
      | '|' => readNode? fuel st.next rest
      | '(' =>
        match readOpening? st.flags rest with
        | none => none
        | some (.flags f, rest) => readNode? fuel (st.change f) rest
        | some (.plain f, rest) => group f none rest id
        | some (.kept name, rest) => group st.flags name rest .group
      | '*' => do readNode? fuel (← st.repeat? 0 none) (dropLazy rest)
      | '+' => do readNode? fuel (← st.repeat? 1 none) (dropLazy rest)
      | '?' => do readNode? fuel (← st.repeat? 0 (some 1)) (dropLazy rest)
      | '\x7b' => do
        let (low, high, rest) ← readBounds? st.flags rest
        readNode? fuel (← st.repeat? low high) (dropLazy rest)
      | '[' => do
        let (m, rest) ← readClass? fuel st.flags 0 rest
        readNode? fuel (st.push ⟨.char m.value, m.depth⟩) rest
      | '.' => do readNode? fuel (st.pushNode (.char (← st.flags.dot?))) rest
      | '^' => readNode? fuel (st.pushNode (.look st.flags.lineStart)) rest
      | '$' => readNode? fuel (st.pushNode (.look st.flags.lineEnd)) rest
      | '\\' => do
        let (e, rest) ← readEscape? st.flags rest
        readNode? fuel (st.pushNode (← e.toNode? st.flags)) rest
      | c => readNode? fuel (st.pushNode (.char (.single st.flags.casing c))) rest

/-- The regular expression of a pattern, if it is one. -/
def parse? (pattern : String) : Option Node := do
  let cs := pattern.toList
  let (m, _, _) ← readNode? (2 * cs.length + 2) ⟨[], .initial, 0, [], []⟩ cs
  if m.depth ≤ maxNesting then return m.value else none

end HttpStub.Regex
