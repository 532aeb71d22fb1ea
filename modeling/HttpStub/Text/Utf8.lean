/-!
# UTF-8

Octet strings and their reading as text.

## Main definitions

* `HttpStub.Bytes` — an octet string.
* `HttpStub.Utf8.encode` — the octets of a text.
* `HttpStub.Utf8.scan` — the characters of an octet string, with a mark for each damaged piece.
* `HttpStub.Utf8.decode?` — the text of an octet string that holds no damaged piece.
* `HttpStub.Utf8.decodeLossy` — the text of any octet string, each damaged piece replaced.

## Design

One reader serves the strict and the lenient use. It keeps the part of a character it has seen as
a `Pending` and looks at each octet once, so it recurses on the octets themselves. A damaged piece
is a longest start of a character that the next octet does not continue, or one octet that starts
no character.
-/

namespace HttpStub

/-- An octet string: a request or response body, a header value, a file's content. -/
abbrev Bytes := List UInt8

namespace Utf8

/-! ## Writing -/

/-- The octets of a list of characters. -/
def encodeChars (cs : List Char) : Bytes :=
  cs.flatMap String.utf8EncodeChar

/-- The octets of a text. -/
def encode (s : String) : Bytes :=
  encodeChars s.toList

/-! ## Reading -/

/-- A character of which at least one octet is missing: the bits read so far, how many octets
are missing, and the range the next one has to lie in. -/
structure Pending where
  value : Nat
  missing : Nat
  low : Nat
  high : Nat
  deriving DecidableEq, Repr

/-- What one octet leads to. -/
inductive Step where
  /-- The octet completes a character. -/
  | char (c : Char)
  /-- The octet belongs to a character that needs more octets. -/
  | more (p : Pending)
  /-- The octet cannot stand here. -/
  | reject
  deriving DecidableEq, Repr

/-- The first octet of a character. The ranges leave out overlong forms, surrogates and values
above `U+10FFFF`. -/
def start (b : UInt8) : Step :=
  let n := b.toNat
  if n < 0x80 then .char (Char.ofNat n)
  else if n < 0xC2 then .reject
  else if n < 0xE0 then .more ⟨n - 0xC0, 1, 0x80, 0xBF⟩
  else if n = 0xE0 then .more ⟨0, 2, 0xA0, 0xBF⟩
  else if n = 0xED then .more ⟨0xD, 2, 0x80, 0x9F⟩
  else if n < 0xF0 then .more ⟨n - 0xE0, 2, 0x80, 0xBF⟩
  else if n = 0xF0 then .more ⟨0, 3, 0x90, 0xBF⟩
  else if n < 0xF4 then .more ⟨n - 0xF0, 3, 0x80, 0xBF⟩
  else if n = 0xF4 then .more ⟨4, 3, 0x80, 0x8F⟩
  else .reject

/-- A later octet of a character. -/
def Pending.next (p : Pending) (b : UInt8) : Step :=
  let n := b.toNat
  if p.low ≤ n ∧ n ≤ p.high then
    let value := p.value * 64 + (n - 0x80)
    if p.missing ≤ 1 then .char (Char.ofNat value)
    else .more ⟨value, p.missing - 1, 0x80, 0xBF⟩
  else .reject

/-- The characters from a state between characters (`none`) or inside one (`some p`); a damaged
piece gives `none`. -/
def scanFrom : Option Pending → Bytes → List (Option Char)
  | none, [] => []
  | some _, [] => [none]
  | none, b :: rest =>
    match start b with
    | .char c => some c :: scanFrom none rest
    | .more p => scanFrom (some p) rest
    | .reject => none :: scanFrom none rest
  | some p, b :: rest =>
    match p.next b with
    | .char c => some c :: scanFrom none rest
    | .more q => scanFrom (some q) rest
    | .reject =>
      match start b with
      | .char c => none :: some c :: scanFrom none rest
      | .more q => none :: scanFrom (some q) rest
      | .reject => none :: none :: scanFrom none rest

/-- The characters of an octet string in order, with `none` for each damaged piece. -/
def scan (bs : Bytes) : List (Option Char) :=
  scanFrom none bs

/-- The characters if none is damaged. -/
def allChars? : List (Option Char) → Option (List Char)
  | [] => some []
  | none :: _ => none
  | some c :: rest => (allChars? rest).map (c :: ·)

/-- The text of an octet string without damaged pieces. -/
def decode? (bs : Bytes) : Option String :=
  (allChars? (scan bs)).map String.ofList

/-- The character that stands for a damaged piece. -/
def replacement : Char := '\uFFFD'

/-- The text of an octet string, with `replacement` for each damaged piece. -/
def decodeLossy (bs : Bytes) : String :=
  String.ofList ((scan bs).map (·.getD replacement))

/-- A text without damaged pieces is read in full. -/
theorem allChars?_map_some (cs : List Char) : allChars? (cs.map some) = some cs := by
  induction cs with
  | nil => rfl
  | cons c cs ih => simp [allChars?, ih]

end Utf8

end HttpStub
