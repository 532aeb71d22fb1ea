import HttpStub.Text.Ascii

/-!
# Characters of all scripts in letters and digits

A text is written in two parts with a hyphen between them: its ASCII characters, and numbers that
tell which other characters stand between them and where. The other characters come in the order of
their code points. A number counts the steps from one to the next, where a step leads through all
places of the text so far, and from the last place to the next code point.

## Main definitions

* `HttpStub.Punycode.encode` — a text in letters and digits.
* `HttpStub.Punycode.decode?` — the text that is written so.

## Design

A number is written with its lowest digit first, in base 36. A digit below a threshold ends it; the
thresholds follow the numbers that have been written, so that likely numbers are short.
-/

namespace HttpStub.Punycode

/-! ## Digits -/

/-- A digit: `a` to `z`, then `0` to `9`. -/
def digitChar (d : Nat) : Char :=
  if d < 26 then Char.ofNat (97 + d) else Char.ofNat (22 + d)

/-- The value of a digit. -/
def digit? (c : Char) : Option Nat :=
  if 'a' ≤ c ∧ c ≤ 'z' then some (c.toNat - 97)
  else if '0' ≤ c ∧ c ≤ '9' then some (c.toNat - 22)
  else none

/-- The threshold for a digit: 1 to 26, by its place in the number and the bias. Places are counted
in steps of 36 from 36 on. -/
def threshold (place bias : Nat) : Nat :=
  min 26 (max 1 (place - bias))

/-- A threshold is positive, so that a digit of value 0 can end any number. -/
theorem threshold_pos (place bias : Nat) : 1 ≤ threshold place bias := by
  unfold threshold; omega

/-! ## Bias -/

/-- The places that a number of this size would fill, and what is left of it then. -/
def scaleDown (delta places : Nat) : Nat × Nat :=
  if 455 < delta then scaleDown (delta / 35) (places + 36) else (delta, places)
termination_by delta
decreasing_by omega

/-- The bias after a number: `count` characters are in the text then, and numbers other than the
first one are likely to be alike. -/
def adapt (delta count : Nat) (isFirst : Bool) : Nat :=
  let delta := if isFirst then delta / 700 else delta / 2
  let (rest, places) := scaleDown (delta + delta / count) 0
  places + 36 * rest / (rest + 38)

/-! ## Writing -/

/-- A number in digits from a place on. -/
def encodeNumber (bias place n : Nat) : List Char :=
  let t := threshold place bias
  if n < t then [digitChar n]
  else digitChar (t + (n - t) % (36 - t)) :: encodeNumber bias (place + 36) ((n - t) / (36 - t))
termination_by n
decreasing_by
  have := threshold_pos place bias
  have := Nat.div_le_self (n - threshold place bias) (36 - threshold place bias)
  omega

/-- What has been written: the digits, the steps since the last number, the bias, and the count of
characters that the reader knows. -/
structure Encoding where
  digits : List Char
  steps : Nat
  bias : Nat
  known : Nat
  deriving DecidableEq, Repr

/-- One character of the text passed while characters of the code point `m` are written. `plain` is
the count of ASCII characters. -/
def Encoding.pass (plain m : Nat) (e : Encoding) (c : Char) : Encoding :=
  if c.toNat < m then { e with steps := e.steps + 1 }
  else if c.toNat = m then
    { digits := e.digits ++ encodeNumber e.bias 36 e.steps
      steps := 0
      bias := adapt e.steps (e.known + 1) (e.known == plain)
      known := e.known + 1 }
  else e

/-- The text passed once for each code point that is left; `next` is the first one that may come. -/
def Encoding.passAll (plain : Nat) (cs : List Char) : Encoding → Nat → List Nat → Encoding
  | e, _, [] => e
  | e, next, m :: ms =>
    let e := { e with steps := e.steps + (m - next) * (e.known + 1) }
    let e := cs.foldl (Encoding.pass plain m) e
    passAll plain cs { e with steps := e.steps + 1 } (m + 1) ms

/-- The character is one of ASCII. -/
def isAscii (c : Char) : Bool := c.toNat < 0x80

/-- A text in letters and digits. -/
def encode (cs : List Char) : List Char :=
  let plain := cs.filter isAscii
  let others := ((cs.filter (!isAscii ·)).map Char.toNat).mergeSort.eraseReps
  let start : Encoding := ⟨[], 0, 72, plain.length⟩
  plain ++ (if plain.isEmpty then [] else ['-'])
    ++ (start.passAll plain.length cs 0x80 others).digits

/-! ## Reading -/

/-- What has been read: the text so far, the code point and the place that were reached, and of the
number that is being read its weight, its place and where it started. -/
structure Decoding where
  chars : List Char
  reached : Nat
  spot : Nat
  bias : Nat
  start : Nat
  weight : Nat
  place : Nat
  deriving DecidableEq, Repr

/-- The state after the ASCII characters. -/
def Decoding.ofPlain (cs : List Char) : Decoding :=
  ⟨cs, 0x80, 0, 72, 0, 1, 36⟩

/-- Numbers stay below this bound. -/
def bound : Nat := 0x100000000

/-- The character that is put in when a number ends. -/
def Decoding.finish? (d : Decoding) : Option Decoding :=
  let count := d.chars.length + 1
  let reached := d.reached + d.spot / count
  let spot := d.spot % count
  if reached.isValidChar then
    some ⟨d.chars.insertIdx spot (Char.ofNat reached), reached, spot + 1,
      adapt (d.spot - d.start) count (d.start == 0), spot + 1, 1, 36⟩
  else none

/-- The state after a digit. -/
def Decoding.next? (d : Decoding) (c : Char) : Option Decoding := do
  let n ← digit? c
  let t := threshold d.place d.bias
  let spot := d.spot + n * d.weight
  if bound ≤ spot then none
  else if n < t then Decoding.finish? { d with spot := spot }
  else
    let weight := d.weight * (36 - t)
    if bound ≤ weight then none
    else return { d with spot := spot, weight := weight, place := d.place + 36 }

/-- The text before the last hyphen and after it. Without a hyphen, or with one only at the start,
all of it stands after. -/
def cutPlain (cs : List Char) : List Char × List Char :=
  let after := (cs.reverse.takeWhile (· != '-')).reverse
  let plain := cs.take (cs.length - after.length - 1)
  if plain.isEmpty then ([], cs) else (plain, after)

/-- The text that is written so. -/
def decode? (cs : List Char) : Option (List Char) := do
  let (plain, digits) := cutPlain cs
  let d ← digits.foldlM Decoding.next? (.ofPlain plain)
  if d.place = 36 then some d.chars else none

end HttpStub.Punycode
