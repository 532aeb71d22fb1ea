import HttpStub.Number.Shortest

/-!
# Numbers of JSON

## Main definitions

* `HttpStub.Json.WideInt` — the integers that have an exact value: signed or unsigned, 64 bits.
* `HttpStub.Json.Number` — an integer or a floating point number.
* `HttpStub.Json.Literal` — a number as it is spelled.
* `HttpStub.Json.Literal.value?` — the number that a spelling stands for.
* `HttpStub.Json.Number.text` — the spelling of a number.

## Design

A spelling is read in two steps. Its digits are gathered in a significand of 64 bits and a power
of ten; then the significand is scaled in floating point arithmetic. The result is therefore not
always the number nearest to the spelling.
-/

namespace HttpStub.Json

/-- The integers with an exact value. -/
abbrev WideInt := { n : Int // -9223372036854775808 ≤ n ∧ n < 18446744073709551616 }

/-- A number of JSON. -/
inductive Number where
  | integer (n : WideInt)
  | float (x : Binary64)
  deriving DecidableEq

namespace Number

/-- The number of a natural below `2 ^ 64`, other naturals in floating point. -/
def ofNat (n : Nat) : Number :=
  if h : n < 18446744073709551616 then .integer ⟨n, by omega, by omega⟩
  else .float ((Binary64.ofNat? n).getD ⟨false, 0, Binary64.minExponent⟩)

/-- The number is not a floating point number. -/
def isInteger : Number → Bool
  | .integer _ => true
  | .float _ => false

/-- The natural that an integer number is. -/
def toNat? : Number → Option Nat
  | .integer n => if 0 ≤ n.val then some n.val.toNat else none
  | .float _ => none

/-! ## Writing -/

/-- The text of an integer. -/
def integerText (n : Int) : List Char :=
  if n < 0 then '-' :: Nat.toDigits 10 n.natAbs else Nat.toDigits 10 n.natAbs

/-- The digits of a decimal around a point. Numbers from `0.00001` up to sixteen digits before the
point are written out; others get one digit before the point and an exponent. -/
def decimalText (d : Decimal) : List Char :=
  let ds := Nat.toDigits 10 d.digits
  let point := (ds.length : Int) + d.exponent
  if d.digits = 0 then ['0', '.', '0']
  else if -4 ≤ point ∧ point ≤ 0 then
    ['0', '.'] ++ List.replicate (-point).toNat '0' ++ ds
  else if 0 < point ∧ point ≤ 16 then
    if point < ds.length then ds.take point.toNat ++ '.' :: ds.drop point.toNat
    else ds ++ List.replicate (point.toNat - ds.length) '0' ++ ['.', '0']
  else
    let tail := if ds.length ≤ 1 then [] else '.' :: ds.drop 1
    let sign := if 0 < point then '+' else '-'
    ds.take 1 ++ tail ++ ['e', sign] ++ Nat.toDigits 10 (point - 1).natAbs

/-- The shortest text of a floating point number. -/
def floatText (x : Binary64) : List Char :=
  if x.negative then '-' :: decimalText x.shortest else decimalText x.shortest

/-- The text of a number. -/
def text : Number → List Char
  | .integer n => integerText n.val
  | .float x => floatText x

/-- The text of a number in comparisons: a floating point number that is a small integer is
written like this integer. -/
def canonicalText : Number → List Char
  | .integer n => integerText n.val
  | .float x =>
    match x.toSmallInt? with
    | some n => integerText n
    | none => floatText x

end Number

/-! ## Reading -/

/-- A number as it is spelled: sign, digits before the point, digits after it, and the exponent if
there is one. -/
structure Literal where
  negative : Bool
  whole : List Nat
  fraction : Option (List Nat)
  exponent : Option (Bool × List Nat)
  deriving DecidableEq, Repr

namespace Literal

/-- The greatest significand. -/
def maxSignificand : Nat := 18446744073709551615

/-- The significand after the digits before the point, and how many of them it does not hold. -/
def gatherWhole : Nat → List Nat → Nat × Nat
  | s, [] => (s, 0)
  | s, d :: ds =>
    if maxSignificand < s * 10 + d then (s, ds.length + 1) else gatherWhole (s * 10 + d) ds

/-- The significand after the digits behind the point, and how many of them it holds. -/
def gatherFraction : Nat → List Nat → Nat × Nat
  | s, [] => (s, 0)
  | s, d :: ds =>
    if maxSignificand < s * 10 + d then (s, 0)
    else
      let (s', n) := gatherFraction (s * 10 + d) ds
      (s', n + 1)

/-- The value of a list of digits. -/
def digitsValue (ds : List Nat) : Nat :=
  ds.foldl (fun n d => n * 10 + d) 0

/-- The greatest power of ten that scales in one step. -/
def maxPower : Nat := 308

/-- The nearest floating point number of a power of ten. -/
def powerOfTen? (k : Nat) : Option Binary64 :=
  Binary64.ofNat? (Nat.pow 10 k)

/-- `x * 10 ^ e` in floating point steps, `none` beyond the largest number. Each step for a small
power takes `maxPower` places; `fuel` bounds their number, and three steps reach zero. -/
def scale (x : Binary64) (e : Int) : Nat → Option Binary64
  | 0 => some x
  | fuel + 1 =>
    if e.natAbs ≤ maxPower then do
      let p ← powerOfTen? e.natAbs
      if 0 ≤ e then x.mul? p else x.div? p
    else if x.isZero then some x
    else if 0 ≤ e then none
    else do
      let p ← powerOfTen? maxPower
      scale (← x.div? p) (e + maxPower) fuel

/-- The floating point number of a spelling, `none` beyond the largest number. -/
def float? (l : Literal) : Option Binary64 := do
  let (s₁, dropped) := gatherWhole 0 l.whole
  let (s, places) := gatherFraction s₁ (l.fraction.getD [])
  let e : Int :=
    match l.exponent with
    | none => 0
    | some (minus, ds) => if minus then -(digitsValue ds : Int) else digitsValue ds
  let x ← Binary64.ofNat? s
  let y ← scale x ((dropped : Int) - (places : Int) + e) 8
  return if l.negative then y.neg else y

/-- The number of a spelling: an integer if it is spelled like one and has an exact value, except
for a negative zero, and a floating point number otherwise. -/
def value? (l : Literal) : Option Number :=
  if l.fraction.isNone ∧ l.exponent.isNone then
    let n := digitsValue l.whole
    if l.negative then
      if h : 0 < n ∧ n ≤ 9223372036854775808 then some (.integer ⟨-(n : Int), by omega, by omega⟩)
      else l.float?.map .float
    else if h : n < 18446744073709551616 then some (.integer ⟨n, by omega, by omega⟩)
    else l.float?.map .float
  else l.float?.map .float

end Literal

end HttpStub.Json
