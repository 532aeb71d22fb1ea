import Std.Data.HashMap
import HttpStub.Regex.Interval

/-!
# The size of the automaton of a regular expression

A pattern is refused when the automaton that recognises the octets of its matches would take too
much room, in either direction of reading.

## Main definitions

* `HttpStub.Regex.Direction` — whether octets are read forward or backward.
* `HttpStub.Regex.CharSet.size` — the room for the states of one character.
* `HttpStub.Regex.Node.size` — the room for the states of an expression.
* `HttpStub.Regex.Node.fits` — the automaton stays within the limit.

## Design

Each state takes the same room, and its ways out take more. A repetition with bounds takes the room
of its copies. Forward, the states of a set share all common ends of octet sequences; backward, the
common beginnings.
-/

namespace HttpStub.Regex

/-- The direction in which octets are read. -/
inductive Direction where
  | forward
  | backward
  deriving DecidableEq, Repr

/-! ## Room for states -/

/-- A state. -/
def stateSize : Nat := 32

/-- A state with a way out for each of `n` intervals of octets. -/
def rangesSize (n : Nat) : Nat := stateSize + 8 * n

/-- A state with `n` ways out that need no octet. -/
def branchSize (n : Nat) : Nat := stateSize + 4 * n

/-- The limit for the states of an automaton. -/
def maxSize : Nat := 10485760

/-! ## Sets of characters -/

/-- The sequences in groups of neighbours with the same first interval. -/
def byFirst : List (List Interval) → List (Interval × List (List Interval))
  | [] => []
  | [] :: seqs => byFirst seqs
  | (i :: tail) :: seqs =>
    match byFirst seqs with
    | (j, tails) :: groups =>
      if i = j then (i, tail :: tails) :: groups else (i, [tail]) :: (j, tails) :: groups
    | [] => [(i, [tail])]

/-- The states that are known by their ways out, and the room that they take. -/
structure Built where
  states : Std.HashMap (List (Interval × Nat)) Nat
  size : Nat

/-- No states but the last one, which has the number zero. -/
def Built.empty : Built := ⟨∅, stateSize⟩

/-- The state of some ways out: a known one, or a new one. -/
def Built.state (b : Built) (ways : List (Interval × Nat)) : Nat × Built :=
  match b.states[ways]? with
  | some n => (n, b)
  | none =>
    let n := b.states.size + 1
    (n, ⟨b.states.insert ways n, b.size + rangesSize ways.length⟩)

/-- The state from which sequences of at most `length` octets are read. -/
def Built.start : Nat → List (List Interval) → Built → Nat × Built
  | 0, _, b => (0, b)
  | length + 1, seqs, b =>
    if seqs.all List.isEmpty then (0, b)
    else
      let (ways, b) := (byFirst seqs).foldl (fun (ways, b) (i, tails) =>
        let (n, b) := Built.start length tails b
        (ways ++ [(i, n)], b)) ([], b)
      b.state ways

/-- The number of different beginnings of sequences of at most `length` octets. -/
def beginnings : Nat → List (List Interval) → Nat
  | 0, _ => 0
  | length + 1, seqs =>
    (byFirst seqs).foldl (fun n (_, tails) => n + 1 + beginnings length tails) 0

/-- The room for the states of one character of a set that is given by its runs. -/
def intervalsSize (d : Direction) (is : List Interval) : Nat :=
  match is with
  | [i] =>
    if i.low = i.high then stateSize * (octetsOf i.low).length else general is
  | is => general is
where
  /-- The room for the states of a set of several characters. -/
  general (is : List Interval) : Nat :=
    if is.all fun i => i.high < 0x80 then stateSize + rangesSize is.length
    else
      let seqs := is.flatMap octetRuns
      match d with
      | .forward => (Built.start 4 seqs .empty).2.size
      | .backward => stateSize + branchSize seqs.length + stateSize * beginnings 4 seqs

/-- The room for the states of one character of a set. -/
def CharSet.size (d : Direction) (s : CharSet) : Nat :=
  intervalsSize d s.intervals

/-! ## Expressions -/

namespace Node

/-- The expression matches nothing but the empty text. -/
def onlyEmpty : Node → Bool
  | .empty => true
  | .char _ => false
  | .look _ => true
  | .seq a b => a.onlyEmpty && b.onlyEmpty
  | .alt a b => a.onlyEmpty && b.onlyEmpty
  | .times a _ max => a.onlyEmpty || max == some 0
  | .group a => a.onlyEmpty

/-- The expression matches the empty text somewhere. -/
def matchesEmpty : Node → Bool
  | .empty => true
  | .char _ => false
  | .look _ => true
  | .seq a b => a.matchesEmpty && b.matchesEmpty
  | .alt a b => a.matchesEmpty || b.matchesEmpty
  | .times a min _ => a.matchesEmpty || min == 0
  | .group a => a.matchesEmpty

/-- The room for a choice beside that for its sides; a choice of several takes its states once. -/
def choiceSize : Node → Nat
  | .alt _ _ => 4
  | _ => stateSize + branchSize 2

/-- The room for a repetition of something that takes `size`. -/
def timesSize (size : Nat) (canBeEmpty : Bool) (min : Nat) (max : Option Nat) : Nat :=
  match min, max with
  | 0, some 0 => stateSize
  | 1, some 1 => size
  | 0, some 1 => size + stateSize + branchSize 2
  | 0, none => if canBeEmpty then size + stateSize + 2 * branchSize 2 else size + branchSize 1
  | min, none => min * size + branchSize 1
  | min, some max =>
    if max = min then min * size
    else max * size + (max - min) * branchSize 2 + stateSize

/-- The room for the states of an expression. -/
def size (d : Direction) : Node → Nat
  | .empty => stateSize
  | .char s => s.size d
  | .look _ => stateSize
  | .seq a b => a.size d + b.size d
  | .alt a b => a.size d + b.size d + a.choiceSize
  | .times a min max =>
    if a.onlyEmpty then timesSize (a.size d) true (Nat.min min 1) (some (Nat.min (max.getD 1) 1))
    else timesSize (a.size d) a.matchesEmpty min max
  | .group a =>
    match d with
    | .forward => a.size d + 2 * stateSize
    | .backward => a.size d

/-- The room for the states around an expression: a start anywhere in the text, the group of the
whole match, and the end. -/
def frameSize : Direction → Nat
  | .forward => stateSize + rangesSize 1 + branchSize 2 + 2 * stateSize + stateSize
  | .backward => stateSize + rangesSize 1 + branchSize 2 + stateSize

/-- The automaton stays within the limit in both directions. -/
def fits (n : Node) : Bool :=
  n.size .forward + frameSize .forward ≤ maxSize && n.size .backward + frameSize .backward ≤ maxSize

end Node

end HttpStub.Regex
