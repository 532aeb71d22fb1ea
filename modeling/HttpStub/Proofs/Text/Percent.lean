import HttpStub.Text.Ascii
import HttpStub.Text.Percent
import HttpStub.Proofs.Text.Utf8

set_option autoImplicit false

/-!
# Reading percent escapes back

A text of a query may be spelled in many ways: each character as itself, by the escapes of its
octets, or by a plus sign if it is a space. All of them are read as the same text.

## Main definitions

* `HttpStub.Percent.Spelled` — a text that spells a list, member by member.
* `HttpStub.Percent.SpellsChar` — the spellings of a character.
* `HttpStub.Percent.Unescaped` — what octets with escapes among them stand for.
* `HttpStub.Percent.Reads` — a spelling stands for octets, whatever follows it.

## Main results

* `HttpStub.Percent.unescape_eq_iff` — escapes are replaced, and everything else stays.
* `HttpStub.Percent.SpellsChar.reads` — a spelling of a character stands for its octets.
* `HttpStub.Percent.decodeComponent_of_spelled` — a spelling of a text is read as this text.
* `HttpStub.Percent.spelled_escape` — texts are spelled with the reserved characters escaped.
-/

namespace HttpStub.Percent

/-! ## Spellings -/

/-- Texts that spell a list: the spellings of its members, one after the other. -/
inductive Spelled {α : Type} (spells : α → List Char → Prop) : List α → List Char → Prop
  | nil : Spelled spells [] []
  | cons {x : α} {xs : List α} {t ts : List Char} (head : spells x t) (tail : Spelled spells xs ts) :
    Spelled spells (x :: xs) (t ++ ts)

/-- The escapes of an octet: its hexadecimal digits behind `%`, each in either case. -/
def EscapesOctet (b : UInt8) (t : List Char) : Prop :=
  ∃ high low, t = ['%', high, low] ∧ Ascii.hexDigit? high = some (b.toNat / 16) ∧
    Ascii.hexDigit? low = some (b.toNat % 16)

/-- The characters that never stand for themselves in a query. -/
def reserved : List Char :=
  ['&', '=', '+', '%']

/-- **The spellings of a character** in a query: itself unless it is reserved, the escapes of its
octets, and a plus sign for a space. -/
inductive SpellsChar : Char → List Char → Prop
  | literal {c : Char} (free : c ∉ reserved) : SpellsChar c [c]
  | plus : SpellsChar ' ' ['+']
  | escaped {c : Char} {t : List Char} (octets : Spelled EscapesOctet (String.utf8EncodeChar c) t) :
    SpellsChar c t

namespace Spelled

variable {α : Type} {spells : α → List Char → Prop} {xs : List α} {t : List Char}

/-- A list is spelled by spellings of its members. -/
lemma flatMap {f : α → List Char} (h : ∀ x ∈ xs, spells x (f x)) :
    Spelled spells xs (xs.flatMap f) := by
  induction xs with
  | nil => exact .nil
  | cons x xs ih =>
    obtain ⟨hx, hxs⟩ := List.forall_mem_cons.1 h
    exact .cons hx (ih hxs)

/-- What the characters of all spellings of members have in common holds in the whole text. -/
lemma forall_mem {p : Char → Prop} (hp : ∀ x t, spells x t → ∀ c ∈ t, p c)
    (h : Spelled spells xs t) : ∀ c ∈ t, p c := by
  induction h with
  | nil => simp
  | cons head tail ih => exact List.forall_mem_append.2 ⟨hp _ _ head, ih⟩

end Spelled

/-! ## Hexadecimal digits -/

section HexDigits

variable {c : Char} {n : Nat}

/-- Hexadecimal digits are characters of ASCII. -/
lemma toNat_lt_of_hexDigit? (h : Ascii.hexDigit? c = some n) : c.toNat < 128 := by
  unfold Ascii.hexDigit? at h
  split_ifs at h with hdigit hlower hupper
  · exact Nat.lt_of_le_of_lt (Char.isDigit_iff_toNat.1 hdigit).2 (by decide)
  · exact Nat.lt_of_le_of_lt hlower.2 (by decide)
  · exact Nat.lt_of_le_of_lt hupper.2 (by decide)

/-- A hexadecimal digit is not reserved, and its one octet has its value. -/
lemma hexDigit?_cases (h : Ascii.hexDigit? c = some n) :
    c ∉ reserved ∧ ∃ b, String.utf8EncodeChar c = [b] ∧ hexValue? b = some (UInt8.ofNat n) := by
  have hall : ∀ m < 128, ∀ n ∈ Ascii.hexDigit? (Char.ofNat m), Char.ofNat m ∉ reserved ∧
      String.utf8EncodeChar (Char.ofNat m) = [UInt8.ofNat m] ∧
        hexValue? (UInt8.ofNat m) = some (UInt8.ofNat n) := by
    decide
  have hc := hall c.toNat (toNat_lt_of_hexDigit? h) n (by rw [Char.ofNat_toNat, h]; rfl)
  rw [Char.ofNat_toNat] at hc
  exact ⟨hc.1, _, hc.2⟩

/-- The digits of an octet give this octet. -/
lemma octet?_of_hexValue? {b high low : UInt8}
    (hhigh : hexValue? high = some (UInt8.ofNat (b.toNat / 16)))
    (hlow : hexValue? low = some (UInt8.ofNat (b.toNat % 16))) : octet? high low = some b := by
  have hb : UInt8.ofNat (b.toNat / 16) * 16 + UInt8.ofNat (b.toNat % 16) = b := by
    have hlt := b.toNat_lt
    rw [← UInt8.toNat_inj, UInt8.toNat_add, UInt8.toNat_mul, UInt8.toNat_ofNat', UInt8.toNat_ofNat']
    simp only [UInt8.toNat_ofNat]
    omega
  rw [octet?, hhigh, hlow]
  exact congrArg some hb

/-- The escape that is written for an octet is one of its escapes. -/
lemma escapesOctet_escapeOctet (b : UInt8) : EscapesOctet b (escapeOctet b) := by
  have hdigit : ∀ n < 16, Ascii.hexDigit? (Nat.digitChar n).toUpper = some n := by
    decide
  have hlt := b.toNat_lt
  exact ⟨_, _, rfl, hdigit _ (by omega), hdigit _ (by omega)⟩

end HexDigits

/-! ## Escapes among octets -/

/-- The octets start with a well-formed escape. -/
def StartsEscape (bs : Bytes) : Prop :=
  ∃ high low o rest, bs = 0x25 :: high :: low :: rest ∧ octet? high low = some o

/-- **What octets stand for**: from the front, each well-formed escape for its octet, and everything
else for itself. -/
inductive Unescaped : Bytes → Bytes → Prop
  | nil : Unescaped [] []
  | escape {high low o : UInt8} {rest os : Bytes} (digits : octet? high low = some o)
    (tail : Unescaped rest os) : Unescaped (0x25 :: high :: low :: rest) (o :: os)
  | copy {b : UInt8} {rest os : Bytes} (plain : ¬ StartsEscape (b :: rest))
    (tail : Unescaped rest os) : Unescaped (b :: rest) (b :: os)

section Unescape

/-- An escape has three octets. -/
lemma not_startsEscape_of_length_lt {bs : Bytes} (h : bs.length < 3) : ¬ StartsEscape bs := by
  rintro ⟨high, low, o, rest, rfl, -⟩
  simp only [List.length_cons] at h
  omega

/-- An escape starts with a percent sign, and two digits follow it. -/
lemma startsEscape_iff {b high low : UInt8} {rest : Bytes} :
    StartsEscape (b :: high :: low :: rest) ↔ b = 0x25 ∧ octet? high low ≠ none := by
  rw [Option.ne_none_iff_exists']
  constructor
  · rintro ⟨_, _, o, _, heq, ho⟩
    cases heq
    exact ⟨rfl, o, ho⟩
  · rintro ⟨rfl, o, ho⟩
    exact ⟨high, low, o, rest, rfl, ho⟩

/-- **An escape becomes its octet.** -/
lemma unescape_escape {high low o : UInt8} (h : octet? high low = some o) (rest : Bytes) :
    unescape (0x25 :: high :: low :: rest) = o :: unescape rest := by
  rw [unescape, if_pos rfl, h]

/-- **Where no escape starts, the octet stays.** -/
lemma unescape_cons {b : UInt8} {rest : Bytes} (h : ¬ StartsEscape (b :: rest)) :
    unescape (b :: rest) = b :: unescape rest := by
  match rest with
  | [] => rfl
  | [_] => rfl
  | high :: low :: rest =>
    rw [startsEscape_iff, not_and_not_right] at h
    rw [unescape]
    split
    · next hb => rw [h hb]
    · rfl

/-- **Escapes are replaced** as they should be, from the front and no others.

**Proof sketch.** The rules determine what octets stand for, and one of them applies to whatever is
left. -/
lemma unescape_eq_iff {bs os : Bytes} : unescape bs = os ↔ Unescaped bs os := by
  constructor
  · rintro rfl
    induction bs using unescape.induct with
    | case1 => exact .nil
    | case2 b => exact .copy (not_startsEscape_of_length_lt (by simp)) .nil
    | case3 b c =>
      exact .copy (not_startsEscape_of_length_lt (by simp))
        (.copy (not_startsEscape_of_length_lt (by simp)) .nil)
    | case4 high low rest o ho ih =>
      rw [unescape_escape ho]
      exact .escape ho ih
    | case5 high low rest ho ih =>
      have hplain : ¬ StartsEscape (0x25 :: high :: low :: rest) := by
        intro h
        exact (startsEscape_iff.1 h).2 ho
      rw [unescape_cons hplain]
      exact .copy hplain ih
    | case6 b high low rest hb ih =>
      have hplain : ¬ StartsEscape (b :: high :: low :: rest) := by
        intro h
        exact hb (startsEscape_iff.1 h).1
      rw [unescape_cons hplain]
      exact .copy hplain ih
  · intro h
    induction h with
    | nil => rfl
    | escape digits _ ih => rw [unescape_escape digits, ih]
    | copy plain _ ih => rw [unescape_cons plain, ih]

/-- **Octets other than `%` stay.** -/
lemma unescape_append_of_not_mem {bs : Bytes} (h : 0x25 ∉ bs) (rest : Bytes) :
    unescape (bs ++ rest) = bs ++ unescape rest := by
  induction bs with
  | nil => rfl
  | cons b bs ih =>
    obtain ⟨hb, hbs⟩ := not_or.1 (mt List.mem_cons.2 h)
    have hplain : ¬ StartsEscape (b :: (bs ++ rest)) := by
      rintro ⟨high, low, o, rest', heq, -⟩
      exact hb (List.cons.inj heq).1.symm
    rw [List.cons_append, unescape_cons hplain, ih hbs, List.cons_append]

/-- Only `%` has the octet `%`: the octets of longer characters lie above those of ASCII. -/
lemma not_mem_utf8EncodeChar {c : Char} (h : c ≠ '%') : 0x25 ∉ String.utf8EncodeChar c := by
  have hn : c.toNat ≠ 0x25 := by
    intro hn
    exact h (by rw [← Char.ofNat_toNat c, hn])
  simp only [String.utf8EncodeChar, ← Char.toNat_val] at *
  generalize c.val.toNat = n at *
  split_ifs with hone htwo hthree
  all_goals
    simp only [List.mem_cons, ← UInt8.toNat_inj, UInt8.toNat_ofNat', List.not_mem_nil, or_false,
      UInt8.toNat_ofNat]
    omega

end Unescape

/-! ## What spellings stand for -/

/-- The octets of a spelling, before its escapes are replaced. -/
def rawOctets (t : List Char) : Bytes :=
  Utf8.encodeChars (t.map plusToSpace)

/-- The spelling stands for the octets, whatever follows it. -/
def Reads (t : List Char) (bs : Bytes) : Prop :=
  ∀ rest, unescape (rawOctets t ++ rest) = bs ++ unescape rest

/-- The octets of two spellings, one after the other. -/
lemma rawOctets_append (t u : List Char) : rawOctets (t ++ u) = rawOctets t ++ rawOctets u := by
  rw [rawOctets, List.map_append, Utf8.encodeChars, List.flatMap_append]
  rfl

/-- A character other than the plus sign is spelled by its octets. -/
lemma rawOctets_singleton {c : Char} (h : c ≠ '+') : rawOctets [c] = String.utf8EncodeChar c := by
  simp [rawOctets, plusToSpace, h, Utf8.encodeChars]

/-- A list of spellings stands for the octets of all members. -/
lemma Spelled.reads {α : Type} {spells : α → List Char → Prop} {octets : α → Bytes} {xs : List α}
    {t : List Char} (hspells : ∀ x t, spells x t → Reads t (octets x)) (h : Spelled spells xs t) :
    Reads t (xs.flatMap octets) := by
  induction h with
  | nil => exact fun rest => rfl
  | cons head tail ih =>
    intro rest
    rw [rawOctets_append, List.append_assoc, hspells _ _ head, ih, List.flatMap_cons,
      List.append_assoc]

/-- An escape of an octet stands for this octet. -/
lemma EscapesOctet.reads {b : UInt8} {t : List Char} (h : EscapesOctet b t) : Reads t [b] := by
  obtain ⟨c, d, rfl, hc, hd⟩ := h
  obtain ⟨hcfree, high, hhigh, hcvalue⟩ := hexDigit?_cases hc
  obtain ⟨hdfree, low, hlow, hdvalue⟩ := hexDigit?_cases hd
  have hplus : '+' ∈ reserved := by decide
  have hcraw : rawOctets [c] = [high] := by
    rw [rawOctets_singleton (ne_of_mem_of_not_mem hplus hcfree).symm, hhigh]
  have hdraw : rawOctets [d] = [low] := by
    rw [rawOctets_singleton (ne_of_mem_of_not_mem hplus hdfree).symm, hlow]
  have hraw : rawOctets ['%', c, d] = [0x25, high, low] := by
    rw [← List.singleton_append, ← List.singleton_append (l := [d]), rawOctets_append,
      rawOctets_append, hcraw, hdraw]
    rfl
  intro rest
  rw [hraw]
  exact unescape_escape (octet?_of_hexValue? hcvalue hdvalue) rest

/-- **A spelling of a character stands for its octets.** -/
lemma SpellsChar.reads {c : Char} {t : List Char} (h : SpellsChar c t) :
    Reads t (String.utf8EncodeChar c) := by
  cases h with
  | literal free =>
    have hplus : c ≠ '+' := (ne_of_mem_of_not_mem (by decide) free).symm
    have hpercent : c ≠ '%' := (ne_of_mem_of_not_mem (by decide) free).symm
    intro rest
    rw [rawOctets_singleton hplus, unescape_append_of_not_mem (not_mem_utf8EncodeChar hpercent)]
  | plus => exact @unescape_append_of_not_mem [0x20] (by decide)
  | escaped octets =>
    have hreads := octets.reads fun _ _ hb => EscapesOctet.reads hb
    rwa [List.flatMap_singleton'] at hreads

/-- **A spelling of a text is read as this text.** -/
lemma decodeComponent_of_spelled {s : String} {t : List Char} (h : Spelled SpellsChar s.toList t) :
    decodeComponent (String.ofList t) = s := by
  have hoctets : unescape (rawOctets t) = Utf8.encode s := by
    have hreads := h.reads (fun _ _ hc => SpellsChar.reads hc) []
    rwa [List.append_nil, unescape, List.append_nil] at hreads
  rw [decodeComponent, String.toList_ofList, ← rawOctets, hoctets, Utf8.decode?_encode]

/-! ## The characters of spellings -/

/-- The character takes no part in how a query is divided. -/
def Inner (c : Char) : Prop :=
  c ≠ '&' ∧ c ≠ '='

/-- Characters that are not reserved do not divide a query. -/
lemma inner_of_not_mem_reserved {c : Char} (h : c ∉ reserved) : Inner c :=
  ⟨(ne_of_mem_of_not_mem (by decide) h).symm, (ne_of_mem_of_not_mem (by decide) h).symm⟩

/-- An escape holds no separator. -/
lemma EscapesOctet.inner {b : UInt8} {t : List Char} (h : EscapesOctet b t) : ∀ c ∈ t, Inner c := by
  obtain ⟨c, d, rfl, hc, hd⟩ := h
  simp only [List.forall_mem_cons, List.not_mem_nil, false_implies, implies_true, and_true]
  exact ⟨by simp [Inner], inner_of_not_mem_reserved (hexDigit?_cases hc).1,
    inner_of_not_mem_reserved (hexDigit?_cases hd).1⟩

/-- A spelling of a character holds no separator. -/
lemma SpellsChar.inner {c : Char} {t : List Char} (h : SpellsChar c t) : ∀ d ∈ t, Inner d := by
  cases h with
  | literal free => simpa using inner_of_not_mem_reserved free
  | plus => simp [Inner]
  | escaped octets => exact octets.forall_mem fun _ _ hb => EscapesOctet.inner hb

/-! ## Writing -/

/-- **Texts are spelled with characters escaped**, if the reserved ones are among these. -/
lemma spelled_escape {p : Char → Bool} (hp : ∀ c ∈ reserved, p c = true) (cs : List Char) :
    Spelled SpellsChar cs (escape p cs) := by
  refine Spelled.flatMap fun c _ => ?_
  split
  · exact .escaped (Spelled.flatMap fun b _ => escapesOctet_escapeOctet b)
  · next hc => exact .literal fun hmem => hc (hp c hmem)

end HttpStub.Percent
