import HttpStub.Text.Utf8
import Mathlib.Data.List.Basic

set_option autoImplicit false

/-!
# Reading written UTF-8 back

The octets of a text are scanned as its characters: none of them is damaged, and none is lost.
Octets that are damaged are not lost either, so only no octets read as the empty text.

## Main results

* `HttpStub.Utf8.scanFrom_encodeChar` — the octets of a character are scanned as this character.
* `HttpStub.Utf8.scan_encode`, `HttpStub.Utf8.decode?_encode` — the octets of a text are scanned as
  its characters, and read as this text.
* `HttpStub.Utf8.decodeLossy_eq_empty_iff` — the octets that read as the empty text.
-/

namespace HttpStub.Utf8

/-! ## Single octets -/

/-- The octet `n`, for a number that fits. -/
lemma toNat_ofNat_of_lt {n : Nat} (h : n < 256) : (UInt8.ofNat n).toNat = n := by
  rw [UInt8.toNat_ofNat', Nat.mod_eq_of_lt h]

/-- The only octet of a character of ASCII. -/
lemma start_one {n : Nat} (h : n ≤ 127) : start (UInt8.ofNat n) = .char (Char.ofNat n) := by
  have hn : n < 0x80 := by omega
  simp only [start, toNat_ofNat_of_lt (show n < 256 by omega), if_pos hn]

/-- The first of two octets. -/
lemma start_two {n : Nat} (hlow : 2 ≤ n) (hhigh : n < 32) :
    start (UInt8.ofNat (n % 32 + 192)) = .more ⟨n, 1, 0x80, 0xBF⟩ := by
  have hall : ∀ n < 32, 2 ≤ n → start (UInt8.ofNat (n % 32 + 192)) = .more ⟨n, 1, 0x80, 0xBF⟩ := by
    decide
  exact hall n hhigh hlow

/-- The first of three octets. The second one leaves out overlong forms and surrogates. -/
lemma start_three {n : Nat} (h : n < 16) :
    start (UInt8.ofNat (n % 16 + 224)) =
      .more ⟨n, 2, if n = 0 then 0xA0 else 0x80, if n = 13 then 0x9F else 0xBF⟩ := by
  revert n
  decide

/-- The first of four octets. The second one leaves out overlong forms and values that are too
large. -/
lemma start_four {n : Nat} (h : n < 5) :
    start (UInt8.ofNat (n % 8 + 240)) =
      .more ⟨n, 3, if n = 0 then 0x90 else 0x80, if n = 4 then 0x8F else 0xBF⟩ := by
  revert n
  decide

section Continuation

variable {value low high n : Nat}

/-- The last octet of a character completes it. -/
lemma next_last (hvalue : value = n / 64) (hlow : low ≤ n % 64 + 128)
    (hhigh : n % 64 + 128 ≤ high) :
    Pending.next ⟨value, 1, low, high⟩ (UInt8.ofNat (n % 64 + 128)) = .char (Char.ofNat n) := by
  have hn : n / 64 * 64 + (n % 64 + 128 - 128) = n := by omega
  simp only [Pending.next, toNat_ofNat_of_lt (show n % 64 + 128 < 256 by omega), hvalue, hn, hlow,
    hhigh, and_self, if_true, Nat.le_refl]

/-- Another octet of a character leaves one less to come. -/
lemma next_more (missing : Nat) (hvalue : value = n / 64) (hlow : low ≤ n % 64 + 128)
    (hhigh : n % 64 + 128 ≤ high) :
    Pending.next ⟨value, missing + 2, low, high⟩ (UInt8.ofNat (n % 64 + 128)) =
      .more ⟨n, missing + 1, 0x80, 0xBF⟩ := by
  have hn : n / 64 * 64 + (n % 64 + 128 - 128) = n := by omega
  have hmissing : ¬ missing + 2 ≤ 1 := by omega
  simp only [Pending.next, toNat_ofNat_of_lt (show n % 64 + 128 < 256 by omega), hvalue, hn, hlow,
    hhigh, and_self, if_true, if_neg hmissing]
  rfl

end Continuation

/-! ## Characters -/

section Steps

variable {b : UInt8} {c : Char} {p q : Pending} (rest : Bytes)

/-- An octet that is a whole character is scanned as it. -/
lemma scanFrom_start_char (h : start b = .char c) :
    scanFrom none (b :: rest) = some c :: scanFrom none rest := by
  rw [scanFrom, h]

/-- An octet that starts a character waits for the others. -/
lemma scanFrom_start_more (h : start b = .more p) :
    scanFrom none (b :: rest) = scanFrom (some p) rest := by
  rw [scanFrom, h]

/-- An octet that completes a character gives it. -/
lemma scanFrom_next_char (h : p.next b = .char c) :
    scanFrom (some p) (b :: rest) = some c :: scanFrom none rest := by
  rw [scanFrom, h]

/-- An octet that continues a character waits for the others. -/
lemma scanFrom_next_more (h : p.next b = .more q) :
    scanFrom (some p) (b :: rest) = scanFrom (some q) rest := by
  rw [scanFrom, h]

end Steps

/-- **The octets of a character are scanned as this character.**

**Proof sketch.** One case for each number of octets. The bits that have been read are the number of
the character without its last six, twelve or eighteen bits. The ranges of the second octet leave
out no character: three octets are taken from `0x800` on and surrogates are no characters, four from
`0x10000` up to `0x10FFFF`. -/
lemma scanFrom_encodeChar (c : Char) (rest : Bytes) :
    scanFrom none (String.utf8EncodeChar c ++ rest) = some c :: scanFrom none rest := by
  have hvalid : c.toNat < 0xD800 ∨ 0xDFFF < c.toNat ∧ c.toNat < 0x110000 := c.valid
  have hchar : Char.ofNat c.toNat = c := Char.ofNat_toNat c
  simp only [String.utf8EncodeChar, ← Char.toNat_val] at *
  generalize c.val.toNat = n at *
  split_ifs with hone htwo hthree
  · rw [List.cons_append, scanFrom_start_char _ (start_one hone), hchar]
    rfl
  · rw [List.cons_append, List.cons_append,
      scanFrom_start_more _ (start_two (n := n / 64) (by omega) (by omega)),
      scanFrom_next_char _ (next_last rfl (by omega) (by omega)), hchar]
    rfl
  · rw [List.cons_append, List.cons_append, List.cons_append,
      scanFrom_start_more _ (start_three (n := n / 4096) (by omega)),
      scanFrom_next_more _
        (next_more 0 (by omega) (by split_ifs <;> omega) (by split_ifs <;> omega)),
      scanFrom_next_char _ (next_last rfl (by omega) (by omega)), hchar]
    rfl
  · rw [List.cons_append, List.cons_append, List.cons_append, List.cons_append,
      scanFrom_start_more _ (start_four (n := n / 262144) (by omega)),
      scanFrom_next_more _
        (next_more 1 (by omega) (by split_ifs <;> omega) (by split_ifs <;> omega)),
      scanFrom_next_more _ (next_more 0 (by omega) (by omega) (by omega)),
      scanFrom_next_char _ (next_last rfl (by omega) (by omega)), hchar]
    rfl

/-- **The octets of a text are scanned as its characters.** -/
lemma scan_encode (s : String) : scan (encode s) = s.toList.map some := by
  have hchars : ∀ cs : List Char, scanFrom none (encodeChars cs) = cs.map some := by
    intro cs
    induction cs with
    | nil => rfl
    | cons c cs ih =>
      rw [encodeChars, List.flatMap_cons, scanFrom_encodeChar, ← encodeChars, ih, List.map_cons]
  exact hchars s.toList

/-- **The octets of a text are read as this text.** -/
lemma decode?_encode (s : String) : decode? (encode s) = some s := by
  rw [decode?, scan_encode, allChars?_map_some, Option.map_some, String.ofList_toList]

/-! ## Damaged pieces -/

/-- A character that was begun leaves a trace, whatever follows. -/
lemma scanFrom_some_ne_nil (p : Pending) (bs : Bytes) : scanFrom (some p) bs ≠ [] := by
  induction bs generalizing p with
  | nil => simp [scanFrom]
  | cons b bs ih =>
    rw [scanFrom]
    rcases p.next b with c | q | _
    · simp
    · exact ih q
    · rcases start b with c | q | _ <;> simp

/-- Only no octets are scanned as nothing. -/
lemma scan_eq_nil_iff {bs : Bytes} : scan bs = [] ↔ bs = [] := by
  cases bs with
  | nil => simp [scan, scanFrom]
  | cons b bs =>
    rw [scan, scanFrom]
    rcases start b with c | p | _
    · simp
    · simp [scanFrom_some_ne_nil]
    · simp

/-- **Only no octets give an empty text**: damaged pieces are replaced, not dropped. -/
lemma decodeLossy_eq_empty_iff {bs : Bytes} : decodeLossy bs = "" ↔ bs = [] := by
  rw [decodeLossy, String.ofList_eq_empty_iff, List.map_eq_nil_iff, scan_eq_nil_iff]

end HttpStub.Utf8
