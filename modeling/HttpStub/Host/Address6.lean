import HttpStub.Text.Ascii
import HttpStub.Text.Split

/-!
# Addresses of eight groups

## Main definitions

* `HttpStub.Address6` — an address of eight groups of 16 bits.
* `HttpStub.Address6.ofText?` — the address that a text spells.
* `HttpStub.Address6.text` — its shortest spelling.

## Design

Groups are numbers in hexadecimal digits with colons between them. Two colons side by side stand, at
one place, for at least one group that is zero. The last two groups may be spelled as four octets in
decimal digits.
-/

namespace HttpStub

/-- An address of eight groups of 16 bits. -/
structure Address6 where
  groups : List UInt16
  length_groups : groups.length = 8
  deriving DecidableEq, Repr

namespace Address6

/-! ## Reading -/

/-- The group that one to four hexadecimal digits spell. -/
def group? (cs : List Char) : Option UInt16 := do
  if cs.isEmpty || 4 < cs.length then none
  else
    let digits ← cs.mapM Ascii.hexDigit?
    return UInt16.ofNat (digits.foldl (fun n d => n * 16 + d) 0)

/-- The octet that decimal digits spell without zeros in front. -/
def octet? (cs : List Char) : Option Nat :=
  let n := Nat.ofDigitChars 10 cs 0
  if cs.isEmpty || !cs.all Char.isDigit || (cs.head? == some '0' && 1 < cs.length) || 255 < n then
    none
  else some n

/-- The two groups that four octets with dots between them spell. -/
def quad? (cs : List Char) : Option (List UInt16) := do
  match ← (Text.pieces (· == '.') cs).mapM octet? with
  | [a, b, c, d] => return [UInt16.ofNat (a * 256 + b), UInt16.ofNat (c * 256 + d)]
  | _ => none

/-- The groups that pieces spell; the last one may be four octets. -/
def groups? : List (List Char) → Option (List UInt16)
  | [] => some []
  | [cs] => if cs.contains '.' then quad? cs else (group? cs).map ([·])
  | cs :: rest => do
    let g ← group? cs
    let gs ← groups? rest
    return g :: gs

/-- The groups of a text with colons between them; the empty text has none. -/
def side? (cs : List Char) : Option (List UInt16) :=
  if cs.isEmpty then some [] else groups? (Text.pieces (· == ':') cs)

/-- The text before and after the first two colons side by side. -/
def cutGap? : List Char → Option (List Char × List Char)
  | ':' :: ':' :: cs => some ([], cs)
  | c :: cs => (cutGap? cs).map fun (before, after) => (c :: before, after)
  | [] => none

/-- The eight groups that a text spells, if there are eight. -/
def allGroups? (cs : List Char) : Option (List UInt16) := do
  match cutGap? cs with
  | none => side? cs
  | some (before, after) =>
    if before.contains '.' then none
    else
      let front ← side? before
      let back ← side? after
      let gap := 8 - (front.length + back.length)
      if gap = 0 then none else return front ++ List.replicate gap 0 ++ back

/-- The address that a text spells. -/
def ofText? (cs : List Char) : Option Address6 := do
  let groups ← allGroups? cs
  if h : groups.length = 8 then some ⟨groups, h⟩ else none

/-! ## Writing -/

/-- The number of zeros at the start. -/
def zerosAt (groups : List UInt16) : Nat :=
  (groups.takeWhile (· == 0)).length

/-- Place and length of the first longest run of zeros; places count from `i`. -/
def longestZeros (i : Nat) : List UInt16 → Nat × Nat
  | [] => (i, 0)
  | g :: gs =>
    let here := zerosAt (g :: gs)
    let later := longestZeros (i + 1) gs
    if later.2 ≤ here then (i, here) else later

/-- Groups with colons between them, in hexadecimal digits without zeros in front. -/
def joined (groups : List UInt16) : String :=
  ":".intercalate (groups.map fun g => String.ofList (Nat.toDigits 16 g.toNat))

/-- The shortest spelling: the first longest run of two or more zeros is left out. -/
def text (a : Address6) : String :=
  let (place, count) := longestZeros 0 a.groups
  if count < 2 then joined a.groups
  else joined (a.groups.take place) ++ "::" ++ joined (a.groups.drop (place + count))

end Address6

end HttpStub
