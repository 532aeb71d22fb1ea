/-!
# Binary floating point numbers of 64 bits

The finite numbers with 53 bits of precision, as sign, mantissa and exponent, with exact
arithmetic on naturals in place of machine operations.

## Main definitions

* `HttpStub.Binary64` — a finite number `± mantissa * 2 ^ exponent`.
* `HttpStub.Binary64.ofRatio?` — the nearest number of a fraction, a half to the even neighbour.
* `HttpStub.Binary64.mul?`, `HttpStub.Binary64.div?` — product and quotient, rounded once.

## Design

A number is in normal form when its mantissa has 53 bits or its exponent is the least one. All
functions of this file give normal forms, so two numbers are equal exactly when their fields are.
A result beyond the largest finite number is `none`.
-/

namespace HttpStub

/-- The finite number `mantissa * 2 ^ exponent`, with a sign that zero has too. -/
structure Binary64 where
  negative : Bool
  mantissa : Nat
  exponent : Int
  deriving DecidableEq, Repr

namespace Binary64

/-- The number of bits of a mantissa. -/
def precision : Nat := 53

/-- The least exponent. -/
def minExponent : Int := -1074

/-- The greatest exponent. -/
def maxExponent : Int := 971

/-- The quotient rounded to the nearest natural, a half to the even one. -/
def roundHalfEven (num den : Nat) : Nat :=
  let q := num / den
  let r := 2 * (num % den)
  if r < den then q
  else if den < r then q + 1
  else q + q % 2

/-- Numerator and denominator of `(num / den) / 2 ^ e`. -/
def scaled (num den : Nat) (e : Int) : Nat × Nat :=
  if 0 ≤ e then (num, den * Nat.pow 2 e.toNat) else (num * Nat.pow 2 (-e).toNat, den)

/-- The number nearest to `± num / den`. -/
def ofRatio? (negative : Bool) (num den : Nat) : Option Binary64 :=
  if num = 0 then some ⟨negative, 0, minExponent⟩
  else
    let guess : Int := (num.log2 : Int) - (den.log2 : Int) - precision
    let (n₀, d₀) := scaled num den guess
    let tight := if n₀ / d₀ < Nat.pow 2 precision then guess else guess + 1
    let e := max tight minExponent
    let (n, d) := scaled num den e
    let m := roundHalfEven n d
    let (m, e) := if m = Nat.pow 2 precision then (Nat.pow 2 (precision - 1), e + 1) else (m, e)
    if maxExponent < e then none else some ⟨negative, m, e⟩

/-- The number nearest to a natural. -/
def ofNat? (n : Nat) : Option Binary64 :=
  ofRatio? false n 1

/-- The magnitude as a fraction. -/
def ratio (x : Binary64) : Nat × Nat :=
  if 0 ≤ x.exponent then (x.mantissa * Nat.pow 2 x.exponent.toNat, 1)
  else (x.mantissa, Nat.pow 2 (-x.exponent).toNat)

/-- The number is zero, with either sign. -/
def isZero (x : Binary64) : Bool :=
  x.mantissa == 0

/-- The number with the other sign. -/
def neg (x : Binary64) : Binary64 :=
  { x with negative := !x.negative }

/-- The product, rounded once. -/
def mul? (x y : Binary64) : Option Binary64 :=
  let (n₁, d₁) := x.ratio
  let (n₂, d₂) := y.ratio
  ofRatio? (x.negative != y.negative) (n₁ * n₂) (d₁ * d₂)

/-- The quotient by a number other than zero, rounded once. -/
def div? (x y : Binary64) : Option Binary64 :=
  let (n₁, d₁) := x.ratio
  let (n₂, d₂) := y.ratio
  ofRatio? (x.negative != y.negative) (n₁ * d₂) (d₁ * n₂)

/-- The integer that the number equals, if it is one of magnitude below `2 ^ 53`. -/
def toSmallInt? (x : Binary64) : Option Int :=
  let (n, d) := x.ratio
  if n % d = 0 ∧ n / d < Nat.pow 2 precision then
    some (if x.negative then -((n / d : Nat) : Int) else ((n / d : Nat) : Int))
  else none

end Binary64

end HttpStub
