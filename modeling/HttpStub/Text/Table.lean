import HttpStub.Text.Ascii
import HttpStub.Text.Split

/-!
# Tables of characters

Properties and case mappings of Unicode are given by ranges of code points.

## Main definitions

* `HttpStub.Text.inRanges` — a code point lies in one of the ranges of a table.
* `HttpStub.Text.Shift` — a run of code points that move by the same distance.
* `HttpStub.Text.shift?` — the image of a code point under a table of runs.
* `HttpStub.Text.rangesOf` — the ranges that a text spells.
* `HttpStub.Text.Expansion` — code points that stand for others.
* `HttpStub.Text.expansionsOf` — the expansions that a text spells.
* `HttpStub.Text.expansion?` — what a code point stands for.

## Design

A long table is kept as a text of items with spaces or line ends between them. Numbers are in
hexadecimal digits. In a table of ranges, `A` is one code point and `A-B` are all from `A` to `B`.
In a table of expansions, `A:X,Y` says that `A` stands for `X` and `Y`; `A-B:X` says that the code
points from `A` to `B` stand for `X` and those after it; `A=B:X` says that they all stand for `X`.
-/

namespace HttpStub.Text

/-! ## Tables -/

/-- The code point lies in one of the ranges, whose two ends belong to them. -/
def inRanges (table : Array (Nat × Nat)) (n : Nat) : Bool :=
  table.any fun (low, high) => low ≤ n && n ≤ high

/-- Every `step`-th code point from `low` to `high` moves by `distance`. -/
structure Shift where
  low : Nat
  high : Nat
  step : Nat
  distance : Int
  deriving DecidableEq, Repr

/-- The code point is one that moves. -/
def Shift.moves (s : Shift) (n : Nat) : Bool :=
  s.low ≤ n && n ≤ s.high && (n - s.low) % s.step == 0

/-- The image of a code point, if a run of the table moves it. -/
def shift? (table : Array Shift) (n : Nat) : Option Nat :=
  (table.find? (·.moves n)).map fun s => ((n : Int) + s.distance).toNat

/-! ## Tables as text -/

/-- The number of a text in hexadecimal digits. -/
def hexNumber (cs : List Char) : Nat :=
  cs.foldl (fun n c => n * 16 + (Ascii.hexDigit? c).getD 0) 0

/-- The items of a table. -/
def items (table : String) : List (List Char) :=
  (pieces (fun c => c == ' ' || c == '\n') table.toList).filter (!·.isEmpty)

/-! ### Ranges -/

/-- The range that an item spells. -/
def rangeOf (item : List Char) : Nat × Nat :=
  match cut? '-' item with
  | some (low, high) => (hexNumber low, hexNumber high)
  | none => (hexNumber item, hexNumber item)

/-- The ranges that a text spells. -/
def rangesOf (table : String) : Array (Nat × Nat) :=
  ((items table).map rangeOf).toArray

/-! ### Expansions -/

/-- The code points from `low` to `high` stand for others: for the same ones, or, if they `advance`,
each for those after the ones of its neighbour. -/
structure Expansion where
  low : Nat
  high : Nat
  advance : Bool
  image : List Nat
  deriving DecidableEq, Repr

/-- What a code point stands for, if it is one of the run. -/
def Expansion.imageOf? (e : Expansion) (n : Nat) : Option (List Nat) :=
  if e.low ≤ n && n ≤ e.high then
    some (if e.advance then e.image.map (· + (n - e.low)) else e.image)
  else none

/-- The expansion that an item spells. -/
def expansionOf (item : List Char) : Expansion :=
  let (run, image) := (cut? ':' item).getD (item, [])
  let image := (pieces (· == ',') image).map hexNumber
  match cut? '=' run with
  | some (low, high) => ⟨hexNumber low, hexNumber high, false, image⟩
  | none => ⟨(rangeOf run).1, (rangeOf run).2, true, image⟩

/-- The expansions that a text spells. -/
def expansionsOf (table : String) : Array Expansion :=
  ((items table).map expansionOf).toArray

/-- What a code point stands for, if the table has it. -/
def expansion? (table : Array Expansion) (n : Nat) : Option (List Nat) :=
  table.findSome? (·.imageOf? n)

end HttpStub.Text
