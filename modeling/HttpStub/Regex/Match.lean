import HttpStub.Regex.Reader
import HttpStub.Regex.Size

/-!
# Finding a regular expression in a text

## Main definitions

* `HttpStub.Regex.ends` — where matches end that start at some places.
* `HttpStub.Regex.Node.isFoundIn` — a match exists somewhere in a text.
* `HttpStub.Regex` — a pattern that is a regular expression.

## Design

Places are numbered from `0` to the length of the text. A set of places is an increasing list, and
an expression maps the places where it may start to those where it may end. More than one round per
place brings nothing new, so a repetition is cut off after that many rounds.
-/

namespace HttpStub.Regex

/-! ## Sets of places -/

/-- The places of two increasing lists. -/
def mergePlaces : List Nat → List Nat → List Nat
  | [], bs => bs
  | a :: as, bs =>
    let rec insertFrom : List Nat → List Nat
      | [] => a :: mergePlaces as []
      | b :: bs =>
        if a < b then a :: mergePlaces as (b :: bs)
        else if b < a then b :: insertFrom bs
        else a :: mergePlaces as bs
    insertFrom bs

/-- The character before a place. -/
def charBefore (text : Array Char) (i : Nat) : Option Char :=
  if i = 0 then none else text[i - 1]?

/-- A step taken a number of times. -/
def steps (step : List Nat → List Nat) : Nat → List Nat → List Nat
  | 0, places => places
  | n + 1, places => if places.isEmpty then [] else steps step n (step places)

/-- All places after at most `n` steps. -/
def upTo (step : List Nat → List Nat) : Nat → List Nat → List Nat
  | 0, places => places
  | n + 1, places =>
    let more := mergePlaces places (step places)
    if more == places then places else upTo step n more

/-! ## Matching -/

/-- Where matches end that start at one of the places. -/
def ends (text : Array Char) : Node → List Nat → List Nat
  | .empty, places => places
  | .char s, places =>
    places.filterMap fun i =>
      match text[i]? with
      | some c => if s.contains c then some (i + 1) else none
      | none => none
  | .look l, places => places.filter fun i => l.holds (charBefore text i) text[i]?
  | .seq a b, places => ends text b (ends text a places)
  | .alt a b, places => mergePlaces (ends text a places) (ends text b places)
  | .group a, places => ends text a places
  | .times a low high, places =>
    let rounds := text.size + 1
    let start := steps (ends text a) (min low rounds) places
    match high with
    | some h => upTo (ends text a) (min (h - low) rounds) start
    | none => upTo (ends text a) rounds start

/-- A match exists somewhere in the text. -/
def Node.isFoundIn (n : Node) (text : String) : Bool :=
  let chars := text.toList.toArray
  !(ends chars n (List.range (chars.size + 1))).isEmpty

end Regex

/-- A pattern that is a regular expression. -/
structure Regex where
  pattern : String
  node : Regex.Node
  deriving DecidableEq, Repr

namespace Regex

/-- The regular expression of a pattern, if it is one and its automaton is not too large. -/
def compile? (pattern : String) : Option Regex :=
  ((parse? pattern).filter Regex.Node.fits).map fun n => ⟨pattern, n⟩

/-- A match exists somewhere in the text. -/
def isFoundIn (r : Regex) (text : String) : Bool :=
  r.node.isFoundIn text

end Regex

end HttpStub
