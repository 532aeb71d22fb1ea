import HttpStub.Regex.Syntax

/-!
# Sets of characters as intervals

## Main definitions

* `HttpStub.Regex.Interval` — a run of code points.
* `HttpStub.Regex.CharSet.intervals` — the runs that make up a set, in ascending order.
* `HttpStub.Regex.octetRuns` — the runs of octet sequences that encode a run of code points.

## Design

The intervals of a set are disjoint and do not touch. Set operations sort and merge, so that each
set has one list of intervals. A complement may run across the code points that encode nothing;
these are cut out when the octets are formed.
-/

namespace HttpStub.Regex

/-- The code points from `low` to `high`, both among them. -/
structure Interval where
  low : Nat
  high : Nat
  deriving DecidableEq, Repr, Hashable

namespace Interval

/-- An interval and the sorted ones after it, with those that touch made one. -/
def mergeFrom (i : Interval) : List Interval → List Interval
  | [] => [i]
  | j :: js =>
    if j.low ≤ i.high + 1 then mergeFrom ⟨i.low, max i.high j.high⟩ js
    else i :: mergeFrom j js

/-- The intervals of a sorted list with those that touch made one. -/
def merge : List Interval → List Interval
  | [] => []
  | i :: is => mergeFrom i is

/-- The intervals that cover the same code points, in order and apart from each other. -/
def normalize (is : List Interval) : List Interval :=
  merge (is.mergeSort fun i j => i.low < j.low || (i.low == j.low && i.high ≤ j.high))

/-- The largest code point. -/
def maxCode : Nat := 0x10FFFF

/-- The code points from `start` on that lie in none of the intervals. -/
def complementFrom (start : Nat) : List Interval → List Interval
  | [] => if start ≤ maxCode then [⟨start, maxCode⟩] else []
  | i :: is =>
    if start < i.low then ⟨start, i.low - 1⟩ :: complementFrom (i.high + 1) is
    else complementFrom (i.high + 1) is

/-- The code points that lie in none of the intervals. -/
def complement (is : List Interval) : List Interval :=
  complementFrom 0 is

/-- The code points of either list. -/
def union (is js : List Interval) : List Interval :=
  normalize (is ++ js)

/-- The code points of both lists. -/
def inter (is js : List Interval) : List Interval :=
  complement (union (complement is) (complement js))

/-- The code point lies in one of the intervals. -/
def covers (is : List Interval) (n : Nat) : Bool :=
  is.any fun i => i.low ≤ n && n ≤ i.high

/-- The intervals of a table of ranges. -/
def ofTable (t : Array (Nat × Nat)) : List Interval :=
  t.toList.map fun (low, high) => ⟨low, high⟩

/-- The code points of a run of the case mapping with their images. -/
def pairsOf (s : Text.Shift) : List (Nat × Nat) :=
  (List.range ((s.high - s.low) / s.step + 1)).map fun k =>
    let n := s.low + k * s.step
    (n, ((n : Int) + s.distance).toNat)

/-- The code points of the intervals with the representatives of all of them. -/
def withRepresentatives (ps : List (Nat × Nat)) (is : List Interval) : List Interval :=
  union is ((ps.filter fun p => covers is p.1).map fun p => ⟨p.2, p.2⟩)

/-- The code points of the intervals with all that have a representative among them. -/
def withMembers (ps : List (Nat × Nat)) (is : List Interval) : List Interval :=
  union is ((ps.filter fun p => covers is p.2).map fun p => ⟨p.1, p.1⟩)

/-- The code points that differ in letter case from one of the intervals, these among them. -/
def closeCase (casing : Casing) (is : List Interval) : List Interval :=
  let shifts : List Text.Shift :=
    match casing with
    | .exact => []
    | .ascii => foldShifts.toList.filter fun s => s.high < 0x80
    | .full => foldShifts.toList
  let ps := shifts.flatMap pairsOf
  if ps.isEmpty then is else withMembers ps (withRepresentatives ps is)

end Interval

open HttpStub.Regex.Interval

/-- The characters of a named class. -/
def NamedClass.intervals (k : NamedClass) : List Interval :=
  normalize (((List.range 128).filter fun n => k.contains (Char.ofNat n)).map fun n => ⟨n, n⟩)

/-- The runs that make up a set, in ascending order. -/
def CharSet.intervals : CharSet → List Interval
  | .none => []
  | .all => [⟨0, maxCode⟩]
  | .range casing low high => closeCase casing [⟨low.toNat, high.toNat⟩]
  | .named casing k => closeCase casing k.intervals
  | .digit => ofTable digitRanges
  | .space => normalize (((List.range 0x3001).filter fun n =>
      Text.isBlank (Char.ofNat n)).map fun n => ⟨n, n⟩)
  | .word => ofTable wordRanges
  | .table ranges => normalize (ofTable ranges)
  | .close casing s => closeCase casing s.intervals
  | .not s => complement s.intervals
  | .union s t => Interval.union s.intervals t.intervals
  | .inter s t => Interval.inter s.intervals t.intervals

/-! ## Octets -/

/-- Below each of these code points an encoding is shorter. -/
def lengthBounds : List Nat := [0x80, 0x800, 0x10000]

/-- The cuts of an interval in front of a code point. -/
def cutAt (n : Nat) (is : List Interval) : List Interval :=
  is.flatMap fun i => if i.low < n ∧ n ≤ i.high then [⟨i.low, n - 1⟩, ⟨n, i.high⟩] else [i]

/-- An interval whose ends have the same number of octets, cut so that the last `level` octets take
all values wherever the octets before them differ. -/
def alignAt (level : Nat) (i : Interval) : List Interval :=
  let block := if level = 1 then 64 else if level = 2 then 4096 else 262144
  if i.low / block = i.high / block then [i]
  else
    let start := (i.low + block - 1) / block * block
    let stop := (i.high + 1) / block * block
    (if i.low < start then [⟨i.low, start - 1⟩] else [])
      ++ (if start < stop then [⟨start, stop - 1⟩] else [])
      ++ (if stop ≤ i.high then [⟨stop, i.high⟩] else [])

/-- The octets of the encoding of a code point. -/
def octetsOf (n : Nat) : List Nat :=
  if n < 0x80 then [n]
  else if n < 0x800 then [0xC0 + n / 64, 0x80 + n % 64]
  else if n < 0x10000 then [0xE0 + n / 4096, 0x80 + n / 64 % 64, 0x80 + n % 64]
  else [0xF0 + n / 262144, 0x80 + n / 4096 % 64, 0x80 + n / 64 % 64, 0x80 + n % 64]

/-- The runs of octet sequences that encode a run of code points: an interval for each octet. -/
def octetRuns (i : Interval) : List (List Interval) :=
  let scalars := (cutAt 0xE000 (cutAt 0xD800 [i])).filter fun j => j.low / 0x800 ≠ 0x1B
  let sized := lengthBounds.foldl (fun is n => cutAt n is) scalars
  let aligned := sized.flatMap fun j =>
    if j.high < 0x80 then [j]
    else (alignAt 3 j).flatMap fun k => (alignAt 2 k).flatMap (alignAt 1)
  aligned.map fun j =>
    (octetsOf j.low).zipWith (fun low high => ⟨low, high⟩) (octetsOf j.high)

end HttpStub.Regex
