import HttpStub.Proofs.Text.Utf8
import Mathlib.Algebra.Group.Nat.Defs
import Mathlib.Data.List.Basic
import Mathlib.Data.String.Basic
import Mathlib.Tactic.Common

set_option autoImplicit false

/-!
# The octets of texts

A character is written as a first octet, which tells how many others follow, and one octet for each
further group of six bits. Octets can be read only if they have been written so, and texts are in
the order of their octets.

## Main definitions

* `HttpStub.Utf8.continuation` — the last octets of a character.
* `HttpStub.Utf8.lastOctets`, `HttpStub.Utf8.leadOffset` — how many there are, and what the first
  octet adds to the bits that it holds.

## Main results

* `HttpStub.Utf8.decode?_eq_some_iff` — only the octets of a text can be read as this text.
* `HttpStub.Utf8.encode_lt_encode_iff` — the octets of texts are in the order of the texts.
-/

namespace HttpStub.Utf8

/-! ## The parts of a character -/

/-- The last `k` octets of a character: its last `k` groups of six bits. -/
def continuation : Nat → Nat → Bytes
  | 0, _ => []
  | k + 1, n => UInt8.ofNat (n / 64 ^ k % 64 + 128) :: continuation k n

/-- How many octets follow the first one of a character. -/
def lastOctets (n : Nat) : Nat :=
  if n ≤ 0x7F then 0 else if n ≤ 0x7FF then 1 else if n ≤ 0xFFFF then 2 else 3

/-- What the first octet of a character adds to its first bits if `k` octets follow. -/
def leadOffset : Nat → Nat
  | 0 => 0
  | 1 => 0xC0
  | 2 => 0xE0
  | _ => 0xF0

/-- Code points end before `0x110000`. -/
lemma toNat_lt (c : Char) : c.toNat < 0x110000 := by
  have hvalid : c.toNat < 0xD800 ∨ 0xDFFF < c.toNat ∧ c.toNat < 0x110000 := c.valid
  omega

/-- The numbers of the characters with no, one, two and three octets after the first one. -/
lemma lastOctets_cases {n : Nat} (h : n < 0x110000) :
    (lastOctets n = 0 ∧ n < 0x80) ∨ (lastOctets n = 1 ∧ 0x80 ≤ n ∧ n < 0x800) ∨
      (lastOctets n = 2 ∧ 0x800 ≤ n ∧ n < 0x10000) ∨ (lastOctets n = 3 ∧ 0x10000 ≤ n) := by
  unfold lastOctets
  split_ifs <;> omega

/-- **The octets of a character** are a first one and those for the other groups of bits. -/
lemma utf8EncodeChar_eq (c : Char) :
    String.utf8EncodeChar c =
      UInt8.ofNat (c.toNat / 64 ^ lastOctets c.toNat + leadOffset (lastOctets c.toNat)) ::
        continuation (lastOctets c.toNat) c.toNat := by
  have hmax := toNat_lt c
  rw [String.utf8EncodeChar]
  rw [Char.toNat_val]
  generalize c.toNat = n at *
  rcases lastOctets_cases hmax with ⟨hk, hn⟩ | ⟨hk, hlow, hn⟩ | ⟨hk, hlow, hn⟩ | ⟨hk, hlow⟩
  · rw [hk, if_pos (by omega)]
    simp [continuation, leadOffset]
  · have hlead : n / 64 % 32 = n / 64 := by omega
    rw [hk, if_neg (by omega), if_pos (by omega), hlead]
    simp [continuation, leadOffset]
  · have hlead : n / 4096 % 16 = n / 4096 := by omega
    rw [hk, if_neg (by omega), if_neg (by omega), if_pos (by omega), hlead]
    simp [continuation, leadOffset]
  · have hlead : n / 262144 % 8 = n / 262144 := by omega
    rw [hk, if_neg (by omega), if_neg (by omega), if_neg (by omega), hlead]
    simp [continuation, leadOffset]

/-- The first octet of a character has eight bits. -/
lemma lead_lt {n : Nat} (h : n < 0x110000) :
    n / 64 ^ lastOctets n + leadOffset (lastOctets n) < 256 := by
  rcases lastOctets_cases h with ⟨hk, hn⟩ | ⟨hk, hn⟩ | ⟨hk, hn⟩ | ⟨hk, hn⟩ <;>
    rw [hk] <;> simp only [leadOffset, pow_zero, Nat.reducePow] <;> omega

/-- A character with more octets has the larger first one. -/
lemma lead_lt_lead {m n : Nat} (h : m < n) (hn : n < 0x110000)
    (hne : lastOctets m ≠ lastOctets n) :
    m / 64 ^ lastOctets m + leadOffset (lastOctets m) <
      n / 64 ^ lastOctets n + leadOffset (lastOctets n) := by
  revert hne
  rcases lastOctets_cases (h.trans hn) with ⟨hk, hm⟩ | ⟨hk, hm⟩ | ⟨hk, hm⟩ | ⟨hk, hm⟩ <;>
    rcases lastOctets_cases hn with ⟨hl, hn⟩ | ⟨hl, hn⟩ | ⟨hl, hn⟩ | ⟨hl, hn⟩ <;>
    rw [hk, hl] <;> simp only [leadOffset, pow_zero, Nat.reducePow] <;> omega

/-! ## Order -/

section Order

variable {m n : Nat}

/-- Octets are compared as numbers are. -/
lemma ofNat_cons_lt {r s : Bytes} (hn : n < 256) (h : m < n) :
    UInt8.ofNat m :: r < UInt8.ofNat n :: s := by
  rw [List.cons_lt_cons_iff, UInt8.lt_iff_toNat_lt, toNat_ofNat_of_lt (h.trans hn),
    toNat_ofNat_of_lt hn]
  exact .inl h

/-- Of two characters with the same first bits, the last octets are in the order of the others. -/
lemma continuation_append_lt {k : Nat} {r s : Bytes} (h : m < n)
    (hfirst : m / 64 ^ k = n / 64 ^ k) :
    continuation k m ++ r < continuation k n ++ s := by
  induction k with
  | zero =>
    rw [pow_zero, Nat.div_one, Nat.div_one] at hfirst
    exact absurd hfirst h.ne
  | succ k ih =>
    have hle : m / 64 ^ k ≤ n / 64 ^ k := Nat.div_le_div_right h.le
    rw [pow_succ, ← Nat.div_div_eq_div_mul, ← Nat.div_div_eq_div_mul] at hfirst
    rw [continuation, continuation, List.cons_append, List.cons_append]
    rcases hle.eq_or_lt with heq | hlt
    · rw [heq, List.cons_lt_cons_iff]
      exact .inr ⟨rfl, ih heq⟩
    · exact ofNat_cons_lt (by omega) (by omega)

/-- **The octets of the smaller character come first**, whatever follows them: a character with more
octets has the larger first one. -/
lemma utf8EncodeChar_append_lt {c d : Char} {r s : Bytes} (h : c < d) :
    String.utf8EncodeChar c ++ r < String.utf8EncodeChar d ++ s := by
  have hlt : c.toNat < d.toNat := h
  have hmax := toNat_lt d
  rw [utf8EncodeChar_eq, utf8EncodeChar_eq, List.cons_append, List.cons_append]
  by_cases hsame : lastOctets c.toNat = lastOctets d.toNat
  · have hle : c.toNat / 64 ^ lastOctets d.toNat ≤ d.toNat / 64 ^ lastOctets d.toNat :=
      Nat.div_le_div_right hlt.le
    have hfits := lead_lt hmax
    rw [hsame]
    rcases hle.eq_or_lt with hfirst | hfirst
    · rw [hfirst, List.cons_lt_cons_iff]
      exact .inr ⟨rfl, continuation_append_lt hlt hfirst⟩
    · exact ofNat_cons_lt hfits (Nat.add_lt_add_right hfirst _)
  · exact ofNat_cons_lt (lead_lt hmax) (lead_lt_lead hlt hmax hsame)

/-- **The octets of texts are in the order of the texts.** -/
lemma encode_lt_encode_iff {s t : String} : encode s < encode t ↔ s < t := by
  have hlt : ∀ {cs ds : List Char}, cs < ds → encodeChars cs < encodeChars ds := by
    intro cs ds h
    induction cs generalizing ds with
    | nil =>
      cases ds with
      | nil => exact absurd h (List.not_lt_nil _)
      | cons d ds =>
        rw [encodeChars, encodeChars, List.flatMap_cons, utf8EncodeChar_eq]
        exact List.nil_lt_cons _ _
    | cons c cs ih =>
      cases ds with
      | nil => exact absurd h (List.not_lt_nil _)
      | cons d ds =>
        rw [encodeChars, encodeChars, List.flatMap_cons, List.flatMap_cons]
        rcases List.cons_lt_cons_iff.1 h with hhead | ⟨rfl, htail⟩
        · exact utf8EncodeChar_append_lt hhead
        · exact List.append_left_lt (ih htail)
  have hmono : ∀ {s t : String}, s < t → encode s < encode t := fun h =>
    hlt (String.lt_iff_toList_lt.1 h)
  refine ⟨fun h => ?_, hmono⟩
  rcases lt_trichotomy s t with hst | rfl | hts
  · exact hst
  · exact absurd h (List.lt_irrefl _)
  · exact absurd h (List.lt_asymm (hmono hts))

end Order

/-! ## Reading -/

/-- A first octet holds the first bits of a character; the range of the next one leaves all
characters that begin with these bits, and no other numbers. -/
lemma exists_of_start_more {b : UInt8} {p : Pending} (h : start b = .more p) :
    ∃ k, p.missing = k + 1 ∧ 0x80 ≤ p.low ∧ p.high ≤ 0xBF ∧
      b.toNat = p.value + leadOffset (k + 1) ∧
      ∀ n, n / 64 ^ (k + 1) = p.value →
        p.low ≤ n / 64 ^ k % 64 + 128 → n / 64 ^ k % 64 + 128 ≤ p.high →
          n.isValidChar ∧ lastOctets n = k + 1 := by
  have hb := b.toNat_lt
  unfold start at h
  dsimp only at h
  split_ifs at h <;> simp only [Step.more.injEq] at h <;> subst h
  -- one range of two octets, three of three octets, and three of four
  all_goals
    refine ⟨_, rfl, ?_⟩
    simp only [leadOffset, Nat.isValidChar]
    refine ⟨by omega, by omega, by omega, fun n hn hlow hhigh => ?_⟩
    unfold lastOctets
    split_ifs <;> omega

/-- The number of the character of a number. -/
lemma toNat_ofNat_of_isValidChar {n : Nat} (h : n.isValidChar) : (Char.ofNat n).toNat = n := by
  rw [Char.ofNat, dif_pos h]
  rfl

/-- An octet that is a character alone is the octet of this character. -/
lemma utf8EncodeChar_of_start {b : UInt8} {c : Char} (h : start b = .char c) :
    String.utf8EncodeChar c = [b] := by
  unfold start at h
  dsimp only at h
  split_ifs at h with hone
  obtain rfl := Step.char.inj h
  have hvalid : b.toNat.isValidChar := .inl (by omega)
  have hlast : lastOctets b.toNat = 0 := if_pos (by omega)
  rw [utf8EncodeChar_eq, toNat_ofNat_of_isValidChar hvalid, hlast, pow_zero, Nat.div_one,
    leadOffset, Nat.add_zero, UInt8.ofNat_toNat, continuation]

/-- An octet that follows in a text without damaged pieces lies in the range. -/
lemma inRange_of_scanFrom_some {p : Pending} {b : UInt8} {bs : Bytes} {cs : List Char}
    (h : scanFrom (some p) (b :: bs) = cs.map some) : p.low ≤ b.toNat ∧ b.toNat ≤ p.high := by
  by_contra hout
  have hreject : p.next b = .reject := if_neg hout
  rw [scanFrom, hreject] at h
  rcases hstart : start b with c | q | _ <;> rw [hstart] at h <;> cases cs <;> simp at h

/-- **The octets of a character that was begun**: if no piece is damaged, the ones that are missing
come next. They hold the other groups of bits of a number that begins with the bits read so far. -/
lemma exists_of_scanFrom_some {k : Nat} {p : Pending} {bs : Bytes} {cs : List Char}
    (hmissing : p.missing = k + 1) (hlow : 0x80 ≤ p.low) (hhigh : p.high ≤ 0xBF)
    (h : scanFrom (some p) bs = cs.map some) :
    ∃ n rest, bs = continuation (k + 1) n ++ rest ∧ n / 64 ^ (k + 1) = p.value ∧
      p.low ≤ n / 64 ^ k % 64 + 128 ∧ n / 64 ^ k % 64 + 128 ≤ p.high ∧
      scanFrom (some p) bs = some (Char.ofNat n) :: scanFrom none rest := by
  induction k generalizing p bs with
  | zero =>
    cases bs with
    | nil => cases cs <;> simp [scanFrom] at h
    | cons b bs =>
      obtain ⟨hb, hb'⟩ := inRange_of_scanFrom_some h
      have hnext : p.next b = .char (Char.ofNat (p.value * 64 + (b.toNat - 0x80))) := by
        rw [Pending.next]
        dsimp only
        rw [if_pos ⟨hb, hb'⟩, if_pos (by omega)]
      have hdigit : (p.value * 64 + (b.toNat - 0x80)) % 64 + 128 = b.toNat := by omega
      refine ⟨p.value * 64 + (b.toNat - 0x80), bs, ?_, by omega, ?_, ?_,
        scanFrom_next_char bs hnext⟩
      · rw [continuation, pow_zero, Nat.div_one, hdigit, UInt8.ofNat_toNat]
        rfl
      · rwa [pow_zero, Nat.div_one, hdigit]
      · rwa [pow_zero, Nat.div_one, hdigit]
  | succ k ih =>
    cases bs with
    | nil => cases cs <;> simp [scanFrom] at h
    | cons b bs =>
      obtain ⟨hb, hb'⟩ := inRange_of_scanFrom_some h
      have hnext : p.next b = .more ⟨p.value * 64 + (b.toNat - 0x80), k + 1, 0x80, 0xBF⟩ := by
        rw [Pending.next]
        dsimp only
        rw [if_pos ⟨hb, hb'⟩, if_neg (by omega), hmissing, Nat.add_sub_cancel]
      rw [scanFrom_next_more bs hnext] at h ⊢
      obtain ⟨n, rest, rfl, hvalue, -, -, hscan⟩ :=
        ih rfl (Nat.le_refl 0x80) (Nat.le_refl 0xBF) h
      have hdigit : n / 64 ^ (k + 1) % 64 + 128 = b.toNat := by
        dsimp only at hvalue
        omega
      have hcons : continuation (k + 2) n = b :: continuation (k + 1) n := by
        rw [continuation, hdigit, UInt8.ofNat_toNat]
      refine ⟨n, rest, ?_, ?_, ?_, ?_, hscan⟩
      · rw [hcons, List.cons_append]
      · rw [pow_succ, ← Nat.div_div_eq_div_mul, hvalue]
        dsimp only
        omega
      · rwa [hdigit]
      · rwa [hdigit]

/-- **Octets that are scanned as characters** are the octets of these. -/
lemma eq_encodeChars_of_scanFrom {bs : Bytes} {cs : List Char}
    (h : scanFrom none bs = cs.map some) : bs = encodeChars cs := by
  induction cs generalizing bs with
  | nil => exact scan_eq_nil_iff.1 h
  | cons c cs ih =>
    cases bs with
    | nil => simp [scanFrom] at h
    | cons b bs =>
      rw [encodeChars, List.flatMap_cons, ← encodeChars]
      rcases hstart : start b with d | p | _
      · rw [scanFrom_start_char bs hstart, List.map_cons, List.cons.injEq, Option.some.injEq] at h
        obtain ⟨rfl, h⟩ := h
        rw [utf8EncodeChar_of_start hstart, ← ih h, List.singleton_append]
      · obtain ⟨k, hmissing, hlow, hhigh, hlead, hrange⟩ := exists_of_start_more hstart
        rw [scanFrom_start_more bs hstart] at h
        obtain ⟨n, rest, rfl, hvalue, hn, hn', hscan⟩ :=
          exists_of_scanFrom_some hmissing hlow hhigh h
        obtain ⟨hvalid, hlast⟩ := hrange n hvalue hn hn'
        rw [hscan, List.map_cons, List.cons.injEq, Option.some.injEq] at h
        obtain ⟨rfl, h⟩ := h
        rw [← ih h, utf8EncodeChar_eq, toNat_ofNat_of_isValidChar hvalid, hlast, hvalue, ← hlead,
          UInt8.ofNat_toNat]
        rfl
      · rw [scanFrom, hstart] at h
        simp at h

/-- A text is read in full if none of its pieces is damaged. -/
lemma allChars?_eq_some_iff {os : List (Option Char)} {cs : List Char} :
    allChars? os = some cs ↔ os = cs.map some := by
  induction os generalizing cs with
  | nil => cases cs <;> simp [allChars?]
  | cons o os ih =>
    cases o with
    | none => cases cs <;> simp [allChars?]
    | some c =>
      rw [allChars?, Option.map_eq_some_iff]
      cases cs with
      | nil => simp
      | cons d cs => simp [ih, and_comm]

/-- **Reading accepts exactly what writing produces**: octets can be read as a text if and only if
they are the octets of this text. -/
lemma decode?_eq_some_iff {bs : Bytes} {s : String} : decode? bs = some s ↔ bs = encode s := by
  refine ⟨fun h => ?_, fun h => h ▸ decode?_encode s⟩
  obtain ⟨cs, hcs, rfl⟩ := Option.map_eq_some_iff.1 h
  rw [encode, String.toList_ofList]
  exact eq_encodeChars_of_scanFrom (allChars?_eq_some_iff.1 hcs)

end HttpStub.Utf8
