import HttpStub.Text.Utf8

/-!
# Packed bodies

## Main definitions

* `HttpStub.Gzip.unpack` — the octets that a gzip file packs.
* `HttpStub.Gzip.inflate` — the octets that a stream of blocks packs.
* `HttpStub.Gzip.Code` — a prefix code, given by the lengths of its words.
* `HttpStub.Gzip.checksum` — the check sum at the end of a file.

## Design

The input is a list of bits, in each octet the least significant first. Every reader gives what it
has read and the bits after it.
-/

namespace HttpStub.Gzip

/-! ## Bits -/

/-- Bits in the order in which they are read. -/
abbrev Bits := List Bool

/-- The bits of octets. -/
def bitsOf (bs : Bytes) : Bits :=
  bs.flatMap fun b => (List.range 8).map fun i => b.toNat.testBit i

/-- The number of so many bits, the least significant first. -/
def takeNumber : Nat → Bits → Option (Nat × Bits)
  | 0, s => some (0, s)
  | _ + 1, [] => none
  | n + 1, b :: s => (takeNumber n s).map fun (v, rest) => (b.toNat + 2 * v, rest)

/-! ## Prefix codes -/

/-- A prefix code: for each length from one on, the symbols whose words have it. Words of one length
are consecutive numbers in the order of the symbols, and longer words come after shorter ones. -/
structure Code where
  rows : List (List Nat)

/-- The code of the lengths of the words; a symbol of length zero has none. -/
def Code.ofLengths (lengths : List Nat) : Code :=
  ⟨(List.range 15).map fun i => (lengths.zipIdx.filter (·.1 == i + 1)).map Prod.snd⟩

/-- The symbol of the next word. `word` are the bits read so far, `first` is the first word of the
current length. -/
def readSymbolFrom : List (List Nat) → Nat → Nat → Bits → Option (Nat × Bits)
  | [], _, _, _ => none
  | _ :: _, _, _, [] => none
  | row :: rows, word, first, b :: s =>
    let word := 2 * word + b.toNat
    match if first ≤ word then row[word - first]? else none with
    | some symbol => some (symbol, s)
    | none => readSymbolFrom rows word (2 * (first + row.length)) s

/-- The symbol of the next word. -/
def Code.readSymbol (c : Code) (s : Bits) : Option (Nat × Bits) :=
  readSymbolFrom c.rows 0 0 s

/-! ## Repetitions -/

/-- The shortest length of each symbol for a length, with the number of bits that add to it. -/
def lengthTable : List (Nat × Nat) :=
  [(3, 0), (4, 0), (5, 0), (6, 0), (7, 0), (8, 0), (9, 0), (10, 0), (11, 1), (13, 1), (15, 1),
    (17, 1), (19, 2), (23, 2), (27, 2), (31, 2), (35, 3), (43, 3), (51, 3), (59, 3), (67, 4),
    (83, 4), (99, 4), (115, 4), (131, 5), (163, 5), (195, 5), (227, 5), (258, 0)]

/-- The number of bits that add to the shortest distance of a symbol. -/
def distanceBits (symbol : Nat) : Nat :=
  if symbol < 4 then 0 else symbol / 2 - 1

/-- The shortest distance of a symbol. -/
def distanceBase (symbol : Nat) : Nat :=
  if symbol < 4 then symbol + 1 else (2 + symbol % 2) * Nat.pow 2 (distanceBits symbol) + 1

/-- So many octets repeated from a distance in front of the end. -/
def repeatFrom (distance : Nat) : Nat → Array UInt8 → Option (Array UInt8)
  | 0, out => some out
  | n + 1, out =>
    if out.size < distance then none
    else (out[out.size - distance]?).bind fun b => repeatFrom distance n (out.push b)

/-- The octets of a block with two codes, after the ones that are given. -/
def readSymbols (literals distances : Code) :
    Nat → Bits → Array UInt8 → Option (Array UInt8 × Bits)
  | 0, _, _ => none
  | fuel + 1, s, out => do
    let (symbol, s) ← literals.readSymbol s
    if symbol < 256 then readSymbols literals distances fuel s (out.push (UInt8.ofNat symbol))
    else if symbol = 256 then return (out, s)
    else
      let (base, bits) ← lengthTable[symbol - 257]?
      let (more, s) ← takeNumber bits s
      let (symbol, s) ← distances.readSymbol s
      if 30 ≤ symbol then none
      else
        let (far, s) ← takeNumber (distanceBits symbol) s
        let out ← repeatFrom (distanceBase symbol + far) (base + more) out
        readSymbols literals distances fuel s out

/-! ## Blocks -/

/-- The lengths of the code for octets and lengths in a block that names none. -/
def fixedLengths : List Nat :=
  List.replicate 144 8 ++ List.replicate 112 9 ++ List.replicate 24 7 ++ List.replicate 8 8

/-- The order in which the lengths of the code for lengths are given. -/
def lengthOrder : List Nat :=
  [16, 17, 18, 0, 8, 7, 9, 6, 10, 5, 11, 4, 12, 3, 13, 2, 14, 1, 15]

/-- So many numbers of three bits. -/
def takeTriples : Nat → Bits → Option (List Nat × Bits)
  | 0, s => some ([], s)
  | n + 1, s => do
    let (v, s) ← takeNumber 3 s
    let (vs, s) ← takeTriples n s
    return (v :: vs, s)

/-- The lengths of two codes up to a number of them, after the ones that are given in reverse. -/
def readLengths (c : Code) (goal : Nat) : Nat → Bits → List Nat → Option (List Nat × Bits)
  | 0, _, _ => none
  | fuel + 1, s, acc =>
    if goal < acc.length then none
    else if acc.length = goal then some (acc.reverse, s)
    else do
      let (symbol, s) ← c.readSymbol s
      if symbol < 16 then readLengths c goal fuel s (symbol :: acc)
      else if symbol = 16 then
        let last ← acc.head?
        let (n, s) ← takeNumber 2 s
        readLengths c goal fuel s (List.replicate (n + 3) last ++ acc)
      else if symbol = 17 then
        let (n, s) ← takeNumber 3 s
        readLengths c goal fuel s (List.replicate (n + 3) 0 ++ acc)
      else
        let (n, s) ← takeNumber 7 s
        readLengths c goal fuel s (List.replicate (n + 11) 0 ++ acc)

/-- The two codes in front of a block. -/
def readCodes (s : Bits) : Option ((Code × Code) × Bits) := do
  let (literals, s) ← takeNumber 5 s
  let (distances, s) ← takeNumber 5 s
  let (count, s) ← takeNumber 4 s
  let (triples, s) ← takeTriples (count + 4) s
  let given := lengthOrder.zip triples
  let lengths := (List.range 19).map fun i => ((given.find? (·.1 == i)).map Prod.snd).getD 0
  let goal := literals + 257 + (distances + 1)
  let (all, s) ← readLengths (.ofLengths lengths) goal (goal + 1) s []
  return ((.ofLengths (all.take (literals + 257)), .ofLengths (all.drop (literals + 257))), s)

/-- So many octets that are not packed. -/
def takeOctets : Nat → Bits → Array UInt8 → Option (Array UInt8 × Bits)
  | 0, s, out => some (out, s)
  | n + 1, s, out => do
    let (v, s) ← takeNumber 8 s
    takeOctets n s (out.push (UInt8.ofNat v))

/-- A block that is not packed; it starts with the next octet. -/
def readStored (s : Bits) (out : Array UInt8) : Option (Array UInt8 × Bits) := do
  let s := s.drop (s.length % 8)
  let (n, s) ← takeNumber 16 s
  let (complement, s) ← takeNumber 16 s
  if n + complement = 0xFFFF then takeOctets n s out else none

/-- The octets of all blocks, after the ones that are given. -/
def readBlocks : Nat → Bits → Array UInt8 → Option (Array UInt8 × Bits)
  | 0, _, _ => none
  | fuel + 1, s, out => do
    let (last, s) ← takeNumber 1 s
    let (kind, s) ← takeNumber 2 s
    let (out, s) ←
      if kind = 0 then readStored s out
      else if kind = 1 then
        readSymbols (.ofLengths fixedLengths) (.ofLengths (List.replicate 30 5)) (s.length + 1) s
          out
      else if kind = 2 then do
        let ((literals, distances), s) ← readCodes s
        readSymbols literals distances (s.length + 1) s out
      else none
    if last = 1 then return (out, s) else readBlocks fuel s out

/-- The octets that a stream of blocks packs, and the bits after it. -/
def inflate (s : Bits) : Option (Array UInt8 × Bits) :=
  readBlocks (s.length + 1) s #[]

/-! ## Files -/

/-- A step of the check sum by one bit. -/
def checksumBit (c : UInt32) : UInt32 :=
  if c &&& 1 = 1 then (c >>> 1) ^^^ 0xEDB88320 else c >>> 1

/-- A step of the check sum by one octet. -/
def checksumOctet (c : UInt32) (b : UInt8) : UInt32 :=
  (List.range 8).foldl (fun c _ => checksumBit c) (c ^^^ b.toUInt32)

/-- The check sum of octets. -/
def checksum (bs : Array UInt8) : UInt32 :=
  bs.foldl checksumOctet 0xFFFFFFFF ^^^ 0xFFFFFFFF

/-- The octets after a text that ends with a zero. -/
def skipText (bs : Bytes) : Bytes :=
  (bs.dropWhile (· != 0)).drop 1

/-- The octets after the head of a file. -/
def skipHead : Bytes → Option Bytes
  | 0x1F :: 0x8B :: 0x08 :: flags :: rest =>
    let rest := rest.drop 6
    let rest :=
      if flags &&& 4 = 4 then
        match rest with
        | low :: high :: rest => rest.drop (low.toNat + 256 * high.toNat)
        | _ => []
      else rest
    let rest := if flags &&& 8 = 8 then skipText rest else rest
    let rest := if flags &&& 16 = 16 then skipText rest else rest
    some (if flags &&& 2 = 2 then rest.drop 2 else rest)
  | _ => none

/-- The octets that a file packs, if its check sum is right. -/
def unpack (bs : Bytes) : Option Bytes := do
  let rest ← skipHead bs
  let (out, s) ← inflate (bitsOf rest)
  let (sum, s) ← takeNumber 32 (s.drop (s.length % 8))
  let (size, _) ← takeNumber 32 s
  if sum = (checksum out).toNat ∧ size = out.size % 4294967296 then return out.toList else none

end HttpStub.Gzip
