import HttpStub.Text.CombiningClass
import HttpStub.Text.Decomposition

/-!
# One spelling for equal texts

A letter with marks can be written as one character or as several, and the marks in several orders.
The normal form of a text takes every character apart, orders the marks, and puts together what has
a character of its own.

## Main definitions

* `HttpStub.Text.normalForm` — the shortest spelling of a text.
* `HttpStub.Text.orderMarks` — the marks after each character by their classes.
* `HttpStub.Text.compose` — parts put together.
-/

namespace HttpStub.Text

/-! ## Order of marks -/

/-- A mark moves behind those of lower classes; marks of one class keep their order. -/
def insertMark (c : Char) : List Char → List Char
  | [] => [c]
  | d :: ds =>
    if 0 < combiningClass d && combiningClass d < combiningClass c then d :: insertMark c ds
    else c :: d :: ds

/-- The marks after each character by their classes. -/
def orderMarks (cs : List Char) : List Char :=
  cs.foldr insertMark []

/-! ## Composition -/

/-- A character to which the marks after it may be added: its parts so far, and the marks behind it
that stay on their own, the last one first. -/
structure Cluster where
  made : List Char
  apart : List Char
  deriving DecidableEq, Repr

/-- The characters of a cluster. -/
def Cluster.chars (k : Cluster) : List Char :=
  (match ofParts? k.made with
    | some c => [c]
    | none => k.made) ++ k.apart.reverse

/-- The next character reaches the first one of the cluster: no mark of its own class, or of a
higher one, stands between them. -/
def Cluster.admits (k : Cluster) (c : Char) : Bool :=
  match k.apart with
  | [] => true
  | d :: _ => combiningClass d < combiningClass c

/-- The cluster with the next character made part of its first one, if there is such a character. -/
def Cluster.join? (k : Cluster) (c : Char) : Option Cluster :=
  if k.admits c && (ofParts? (k.made ++ [c])).isSome then some ⟨k.made ++ [c], k.apart⟩ else none

/-- The characters of a cluster and of what follows it, with parts put together. -/
def composeFrom (k : Cluster) : List Char → List Char
  | [] => k.chars
  | c :: cs =>
    match k.join? c with
    | some joined => composeFrom joined cs
    | none =>
      if combiningClass c = 0 then k.chars ++ composeFrom ⟨[c], []⟩ cs
      else composeFrom ⟨k.made, c :: k.apart⟩ cs

/-- Parts put together. -/
def compose : List Char → List Char
  | [] => []
  | c :: cs => composeFrom ⟨[c], []⟩ cs

/-- The shortest spelling of a text. -/
def normalForm (cs : List Char) : List Char :=
  compose (orderMarks (cs.flatMap parts))

end HttpStub.Text
