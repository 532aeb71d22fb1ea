import HttpStub.Number.Binary64

/-!
# The fewest digits that read back

## Main definitions

* `HttpStub.Decimal` — a natural times a power of ten.
* `HttpStub.Binary64.shortest` — the decimal with the fewest digits among those that round to a
  number, and of these the one nearest to it.

## Design

The decimals that round to a number form an interval around it, which holds its ends when the
mantissa is even. For one digit, two digits and so on the two neighbours of the number on the
decimal grid are tested against the interval; seventeen digits always suffice.
-/

namespace HttpStub

/-- The number `digits * 10 ^ exponent`. -/
structure Decimal where
  digits : Nat
  exponent : Int
  deriving DecidableEq, Repr

namespace Decimal

/-- The decimal as a fraction. -/
def ratio (d : Decimal) : Nat × Nat :=
  if 0 ≤ d.exponent then (d.digits * Nat.pow 10 d.exponent.toNat, 1)
  else (d.digits, Nat.pow 10 (-d.exponent).toNat)

/-- The same number without zeros at the end of its digits; at most `fuel` of them are dropped. -/
def dropZeros : Nat → Decimal → Decimal
  | 0, d => d
  | fuel + 1, d =>
    if d.digits ≠ 0 ∧ d.digits % 10 = 0 then dropZeros fuel ⟨d.digits / 10, d.exponent + 1⟩ else d

end Decimal

/-- How many decimal digits a natural has; zero has none. -/
def digitCount (n : Nat) : Nat :=
  if n = 0 then 0 else (Nat.toDigits 10 n).length

/-- The `k` with `10 ^ (k - 1) ≤ num / den < 10 ^ k`, for a fraction other than zero. -/
def magnitude (num den : Nat) : Int :=
  if den ≤ num then digitCount (num / den) else 1 - (digitCount ((den - 1) / num) : Int)

namespace Binary64

/-- The ends of the interval of decimals that round to the number, as numerators over one common
denominator. -/
structure Interval where
  low : Nat
  high : Nat
  den : Nat
  closed : Bool
  deriving DecidableEq, Repr

/-- The interval of a number: half a step up, and half a step down, where the step below the least
mantissa of 53 bits is half as wide. -/
def interval (x : Binary64) : Interval :=
  let below := if x.mantissa = Nat.pow 2 (precision - 1) ∧ minExponent < x.exponent then 1 else 2
  let low := 4 * x.mantissa - below
  let high := 4 * x.mantissa + 2
  let e := x.exponent - 2
  if 0 ≤ e then ⟨low * Nat.pow 2 e.toNat, high * Nat.pow 2 e.toNat, 1, x.mantissa % 2 == 0⟩
  else ⟨low, high, Nat.pow 2 (-e).toNat, x.mantissa % 2 == 0⟩

/-- The decimal lies in the interval. -/
def Interval.contains (i : Interval) (d : Decimal) : Bool :=
  let (n, m) := d.ratio
  if i.closed then i.low * m ≤ n * i.den && n * i.den ≤ i.high * m
  else i.low * m < n * i.den && n * i.den < i.high * m

/-- The decimal with `count` digits in the interval that is nearest to the number, of two equally
near ones the one with an even last digit. -/
def nearest? (x : Binary64) (i : Interval) (k : Int) (count : Nat) : Option Decimal :=
  let (num, den) := x.ratio
  let e := k - (count : Int)
  let (n, d) :=
    if 0 ≤ e then (num, den * Nat.pow 10 e.toNat) else (num * Nat.pow 10 (-e).toNat, den)
  let q := n / d
  let below : Decimal := ⟨q, e⟩
  let above : Decimal := ⟨q + 1, e⟩
  let r := 2 * (n % d)
  let preferBelow := r < d || (r == d && q % 2 == 0)
  let (first, second) := if preferBelow then (below, above) else (above, below)
  if i.contains first then some first
  else if i.contains second then some second
  else none

/-- The first hit of `nearest?` from `count` digits on, within `fuel` trials. -/
def shortestFrom (x : Binary64) (i : Interval) (k : Int) : Nat → Nat → Decimal
  | 0, count => ⟨(x.ratio.1 * Nat.pow 10 ((count : Int) - k).toNat) / x.ratio.2, k - (count : Int)⟩
  | fuel + 1, count =>
    match nearest? x i k count with
    | some d => d
    | none => shortestFrom x i k fuel (count + 1)

/-- The shortest decimal that rounds to the number, without its sign. -/
def shortest (x : Binary64) : Decimal :=
  if x.isZero then ⟨0, 0⟩
  else
    let (num, den) := x.ratio
    (shortestFrom x x.interval (magnitude num den) 17 1).dropZeros 20

end Binary64

end HttpStub
