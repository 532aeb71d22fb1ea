import HttpStub.Json.Decode
import HttpStub.Proofs.Json.Shape
import Mathlib.Data.List.Sort

set_option autoImplicit false

/-!
# Reading written JSON back

The compact text of a value without floating point numbers is read as this value, whatever follows
it, as long as what follows does not go on with a number. So no such text is the start of another
one, and values with the same text are equal.

## Main definitions

* `HttpStub.Json.Value.outline` — the outline of the compact text of a value.
* `HttpStub.Json.EndsNumber` — a text that does not go on with a number.
* `HttpStub.Json.ReadsBack` — the text of a value is read as its outline.

## Main results

* `HttpStub.Json.readsBack` — the compact text of a value is read as its outline.
* `HttpStub.Json.Value.value?_outline` — the outline spells the value.
* `HttpStub.Json.parseString?_compact` — the compact text is parsed as the value.
* `HttpStub.Json.chars_append_inj` — a compact text in front of another text can be told from it.
-/

namespace HttpStub.Json

/-! ## Digits -/

/-- The digits of a natural as they are read back. -/
def decimalDigits (n : Nat) : List Nat :=
  (Nat.toDigits 10 n).map fun c => c.toNat - 48

/-- The text does not go on with a number: no digit, no point and no exponent comes next. -/
def EndsNumber : Marks → Prop
  | some c :: _ => decimalDigit? c = none ∧ c ≠ '.' ∧ c ≠ 'e' ∧ c ≠ 'E'
  | _ => True

/-- What stands behind a value does not go on with a number. -/
lemma endsNumber_cons {c : Char} (h : c ∈ [',', ']', '\x7d', ' ']) (s : Marks) :
    EndsNumber (some c :: s) := by
  have hall : ∀ c ∈ [',', ']', '\x7d', ' '],
      decimalDigit? c = none ∧ c ≠ '.' ∧ c ≠ 'e' ∧ c ≠ 'E' := by
    simp only [List.forall_mem_cons, List.not_mem_nil, false_implies, implies_true, and_true]
    decide
  exact hall c h

/-- A digit is read as its value. -/
lemma decimalDigit?_of_isDigit {c : Char} (h : c.isDigit = true) :
    decimalDigit? c = some (c.toNat - 48) := by
  simp only [Char.isDigit, Bool.and_eq_true, decide_eq_true_eq] at h
  exact if_pos h

/-- A number below ten has one digit. -/
lemma decimalDigits_of_lt {n : Nat} (h : n < 10) : decimalDigits n = [n] := by
  rw [decimalDigits, Nat.toDigits_of_lt_base h, List.map_singleton,
    Nat.toNat_digitChar_sub_48_of_lt_ten h]

/-- The last digit of a number, after those of the number without it. -/
lemma decimalDigits_append {m k : Nat} (hm : 0 < m) (hk : k < 10) :
    decimalDigits (10 * m + k) = decimalDigits m ++ [k] := by
  rw [decimalDigits, ← Nat.toDigits_append_toDigits (by decide) hm hk, List.map_append,
    ← decimalDigits, ← decimalDigits, decimalDigits_of_lt hk]

/-- A number has at least one digit. -/
lemma decimalDigits_ne_nil (n : Nat) : decimalDigits n ≠ [] := by
  simp only [decimalDigits, ne_eq, List.map_eq_nil_iff]
  exact Nat.toDigits_ne_nil

/-- A natural other than zero is not written with a zero at the front. -/
lemma head?_decimalDigits_ne_zero {n : Nat} (hn : 0 < n) :
    (decimalDigits n).head? ≠ some 0 := by
  induction n using Nat.base_induction 10 (by decide) with
  | single m hm =>
    rw [decimalDigits_of_lt hm, List.head?_cons, ne_eq, Option.some.injEq]
    omega
  | digit m k hk hm ih =>
    rw [decimalDigits_append hm hk, List.head?_append_of_ne_nil _ (decimalDigits_ne_nil m)]
    exact ih hm

/-- Zero alone is written with a zero at the front, and without further digits. -/
lemma decimalDigits_ne_zero_cons (n d : Nat) (ds : List Nat) : decimalDigits n ≠ 0 :: d :: ds := by
  intro h
  rcases Nat.eq_zero_or_pos n with rfl | hn
  · rw [decimalDigits_of_lt (by decide)] at h
    exact absurd (congrArg List.length h) (by simp)
  · exact head?_decimalDigits_ne_zero hn (by rw [h, List.head?_cons])

/-- **The digits of a number have its value.** -/
lemma digitsValue_decimalDigits (n : Nat) : Literal.digitsValue (decimalDigits n) = n := by
  have h := Nat.ofDigitChars_ten_toDigits (n := n)
  rw [Nat.ofDigitChars_eq_foldl] at h
  rw [Literal.digitsValue, decimalDigits, List.foldl_map]
  simp only [Nat.mul_comm _ 10]
  exact h

/-- Digits are read up to the first character that is none. -/
lemma readDigits_append {ds : List Char} (hds : ∀ c ∈ ds, c.isDigit = true) {rest : Marks}
    (hrest : EndsNumber rest) :
    readDigits (ds.map some ++ rest) = (ds.map fun c => c.toNat - 48, rest) := by
  induction ds with
  | nil =>
    match rest, hrest with
    | [], _ => rfl
    | none :: _, _ => rfl
    | some c :: rest, h => simp [readDigits, h.1]
  | cons d ds ih =>
    obtain ⟨hd, hds⟩ := List.forall_mem_cons.1 hds
    simp only [List.map_cons, List.cons_append, readDigits, decimalDigit?_of_isDigit hd, ih hds]

/-- There is no fraction where no number goes on. -/
lemma readFraction_of_endsNumber {rest : Marks} (h : EndsNumber rest) :
    readFraction rest = some (none, rest) := by
  match rest, h with
  | [], _ => rfl
  | none :: _, _ => rfl
  | some c :: rest, h => simp [readFraction, h.2.1]

/-- There is no exponent where no number goes on. -/
lemma readExponent_of_endsNumber {rest : Marks} (h : EndsNumber rest) :
    readExponent rest = some (none, rest) := by
  match rest, h with
  | [], _ => rfl
  | none :: _, _ => rfl
  | some c :: rest, h => simp [readExponent, h.2.2.1, h.2.2.2]

/-- The digits of a natural are read as this natural, and nothing more. -/
lemma readUnsigned_toDigits (negative : Bool) (n : Nat) {rest : Marks} (hrest : EndsNumber rest) :
    readUnsigned negative ((Nat.toDigits 10 n).map some ++ rest) =
      some (⟨negative, decimalDigits n, none, none⟩, rest) := by
  have hread : readDigits ((Nat.toDigits 10 n).map some ++ rest) = (decimalDigits n, rest) :=
    readDigits_append (fun c hc => Nat.isDigit_of_mem_toDigits (by decide) le_rfl hc) hrest
  rw [readUnsigned, hread]
  split
  · next heq => exact absurd (congrArg Prod.fst heq) (decimalDigits_ne_nil n)
  · next heq => exact absurd (congrArg Prod.fst heq) (decimalDigits_ne_zero_cons n _ _)
  · next ds rest' _ _ heq =>
    obtain ⟨rfl, rfl⟩ := Prod.mk.inj heq
    simp [readFraction_of_endsNumber hrest, readExponent_of_endsNumber hrest]

/-- The literal that the text of an integer is read as. -/
def Literal.ofInt (n : Int) : Literal :=
  ⟨decide (n < 0), decimalDigits n.natAbs, none, none⟩

/-- The text of an integer is read as its literal. -/
lemma readNumber_integerText (n : Int) {rest : Marks} (hrest : EndsNumber rest) :
    readNumber ((Number.integerText n).map some ++ rest) = some (Literal.ofInt n, rest) := by
  by_cases hn : n < 0
  · simp [Number.integerText, hn, readNumber, readUnsigned_toDigits true n.natAbs hrest,
      Literal.ofInt]
  · obtain ⟨c, cs, hc⟩ := List.exists_cons_of_ne_nil (Nat.toDigits_ne_nil (n := n.natAbs) (b := 10))
    have hdig : c.isDigit = true :=
      Nat.isDigit_of_mem_toDigits (by decide) le_rfl (hc ▸ List.mem_cons_self)
    have hminus : c ≠ '-' := by
      rintro rfl
      exact absurd hdig (by decide)
    have hread := readUnsigned_toDigits false n.natAbs hrest
    rw [hc] at hread
    simpa [Number.integerText, hn, hc, readNumber, hminus, Literal.ofInt] using hread

/-- The literal of an integer stands for this integer. -/
lemma Literal.value?_ofInt (n : WideInt) : (Literal.ofInt n.val).value? = some (.integer n) := by
  obtain ⟨n, hlow, hhigh⟩ := n
  simp only [Literal.value?, Literal.ofInt, Option.isNone_none, and_self, if_true,
    digitsValue_decimalDigits]
  by_cases hn : n < 0
  · have h : 0 < n.natAbs ∧ n.natAbs ≤ 9223372036854775808 := by omega
    have hval : -(n.natAbs : Int) = n := by omega
    simp only [hn, decide_true, if_true, dif_pos h, hval]
  · have h : n.natAbs < 18446744073709551616 := by omega
    have hval : (n.natAbs : Int) = n := by omega
    simp only [hn, decide_false, Bool.false_eq_true, if_false, dif_pos h, hval]

/-! ## Strings -/

/-- A character between quotation marks is read as one piece, which stands for this character.

**Proof sketch.** One case for each kind of escape. A control without a short escape is written by
its number, which lies below the surrogates, so it does not join with what follows. -/
lemma readPieces_escapedChar (c : Char) (s : Marks) :
    ∃ p, readPieces ((escapedChar c).map some ++ s) = pushPiece p (readPieces s) ∧
      ∀ ps, joinPieces (p :: ps) = (joinPieces ps).map (c :: ·) := by
  unfold escapedChar
  split_ifs with hquote hslash hn hr ht hb hf hcontrol
  · exact ⟨.char c, by simp [readPieces, simpleEscape?, hquote], fun _ => rfl⟩
  · exact ⟨.char c, by simp [readPieces, simpleEscape?, hslash], fun _ => rfl⟩
  · exact ⟨.char c, by simp [readPieces, simpleEscape?, hn], fun _ => rfl⟩
  · exact ⟨.char c, by simp [readPieces, simpleEscape?, hr], fun _ => rfl⟩
  · exact ⟨.char c, by simp [readPieces, simpleEscape?, ht], fun _ => rfl⟩
  · exact ⟨.char c, by simp [readPieces, simpleEscape?, hb], fun _ => rfl⟩
  · exact ⟨.char c, by simp [readPieces, simpleEscape?, hf], fun _ => rfl⟩
  · have hunit : hexUnit? '0' '0' (Nat.digitChar (c.toNat / 16)) (Nat.digitChar (c.toNat % 16)) =
        some c.toNat := by
      generalize c.toNat = n at hcontrol
      revert n
      decide
    refine ⟨.unit c.toNat, by simp [readPieces, hexDigits, hunit], fun ps => ?_⟩
    have hlow : isLowUnit c.toNat = false := by simp [isLowUnit]; omega
    have hhigh : isHighUnit c.toNat = false := by simp [isHighUnit]; omega
    rw [joinPieces.eq_def]
    simp [hlow, hhigh]
  · refine ⟨.char c, ?_, fun _ => rfl⟩
    rw [List.map_singleton, List.singleton_append, readPieces.eq_def]
    simp [hquote, hslash, hcontrol]

/-- What is written between the quotes of a string is read as its characters, up to the closing
quote. -/
lemma readPieces_escaped (cs : List Char) (rest : Marks) :
    ∃ ps, readPieces ((cs.flatMap escapedChar).map some ++ some '"' :: rest) = some (ps, rest) ∧
      joinPieces ps = some cs := by
  induction cs with
  | nil =>
    refine ⟨[], ?_, rfl⟩
    rw [List.flatMap_nil, List.map_nil, List.nil_append, readPieces.eq_def]
    rfl
  | cons c cs ih =>
    obtain ⟨ps, hread, hjoin⟩ := ih
    obtain ⟨p, hp, hc⟩ := readPieces_escapedChar c
      ((cs.flatMap escapedChar).map some ++ some '"' :: rest)
    refine ⟨p :: ps, ?_, by rw [hc, hjoin, Option.map_some]⟩
    rw [List.flatMap_cons, List.map_append, List.append_assoc, hp, hread]
    rfl

/-- A string between quotation marks is read as this string. -/
lemma readString_stringText (s : String) :
    ∃ text, stringText s = '"' :: text ∧
      ∀ rest, readString (text.map some ++ rest) = some (some s, rest) := by
  refine ⟨s.toList.flatMap escapedChar ++ ['"'], rfl, fun rest => ?_⟩
  obtain ⟨ps, hread, hjoin⟩ := readPieces_escaped s.toList rest
  rw [List.map_append, List.append_assoc, List.map_singleton, List.singleton_append, readString,
    hread]
  simp [hjoin]

/-! ## Values -/

mutual

/-- The outline of the compact text of a value. A floating point number has none here: its text is
read by rules of its own. -/
def Value.outline : Value → Outline
  | .null => .null
  | .bool b => .bool b
  | .number (.integer n) => .number (.ofInt n.val)
  | .number (.float _) => .broken
  | .string s => .string (some s)
  | .array items => .array (itemOutlines items) true
  | .object members => .object (memberOutlines members) true

/-- The outlines of the items of an array. -/
def itemOutlines : List Value → List Outline
  | [] => []
  | v :: vs => v.outline :: itemOutlines vs

/-- The names of the members of an object with the outlines of their values. -/
def memberOutlines : List (String × Value) → List (Option String × Outline)
  | [] => []
  | (k, v) :: ms => (some k, v.outline) :: memberOutlines ms

end

/-- The outlines of the items, one by one. -/
@[simp] lemma itemOutlines_eq_map (vs : List Value) :
    itemOutlines vs = vs.map Value.outline := by
  induction vs with
  | nil => rfl
  | cons v vs ih => simp only [itemOutlines, ih, List.map_cons]

/-- The outlines of the members, one by one, with their names. -/
@[simp] lemma memberOutlines_eq_map (ms : Members) :
    memberOutlines ms = ms.map fun m => (some m.1, m.2.outline) := by
  induction ms with
  | nil => rfl
  | cons m ms ih => simp only [memberOutlines, ih, List.map_cons]

/-- The text of the value is read as its outline, whatever follows it. -/
def ReadsBack (v : Value) : Prop :=
  ∀ fuel rest, 2 * v.chars.length ≤ fuel → EndsNumber rest →
    readValue fuel (v.chars.map some ++ rest) = (v.outline, some rest)

/-- In front of a character that is no blank nothing is skipped. -/
lemma skipBlanks_of_not_blank {c : Char} (h : isBlankMark (some c) = false) (s : Marks) :
    skipBlanks (some c :: s) = some c :: s := by
  rw [skipBlanks, List.dropWhile_cons_of_neg (by simp [h])]

/-- The text of an integer starts with a digit or a minus sign. -/
lemma exists_integerText_eq_cons (n : Int) :
    ∃ c cs, Number.integerText n = c :: cs ∧ (c.isDigit = true ∨ c = '-') := by
  by_cases hn : n < 0
  · exact ⟨'-', Nat.toDigits 10 n.natAbs, by simp [Number.integerText, hn], .inr rfl⟩
  · obtain ⟨c, cs, hc⟩ := List.exists_cons_of_ne_nil (Nat.toDigits_ne_nil (n := n.natAbs) (b := 10))
    exact ⟨c, cs, by simp [Number.integerText, hn, hc],
      .inl (Nat.isDigit_of_mem_toDigits (by decide) le_rfl (hc ▸ List.mem_cons_self))⟩

/-- What a number starts with is no blank, no bracket, no quote and no letter. -/
lemma ne_of_digit_or_minus {c : Char} (h : c.isDigit = true ∨ c = '-') :
    ∀ d ∈ [' ', '\t', '\n', '\r', ']', 'n', 't', 'f', '"', '[', '\x7b'], c ≠ d := by
  have hno : ∀ d ∈ [' ', '\t', '\n', '\r', ']', 'n', 't', 'f', '"', '[', '\x7b'],
      ¬ (d.isDigit = true ∨ d = '-') := by
    simp only [List.forall_mem_cons, List.not_mem_nil, false_implies, implies_true, and_true]
    decide
  rintro d hd rfl
  exact hno c hd h

/-- The text of a value starts with a character that is no blank and closes no array. -/
lemma exists_chars_eq_cons {v : Value} (hv : v.floatFree = true) :
    ∃ c cs, v.chars = c :: cs ∧ isBlankMark (some c) = false ∧ c ≠ ']' := by
  cases v with
  | null => exact ⟨_, _, rfl, by decide, by decide⟩
  | bool b => cases b <;> exact ⟨_, _, rfl, by decide, by decide⟩
  | number n =>
    cases n with
    | float x => simp [Value.floatFree, Number.isInteger] at hv
    | integer n =>
      obtain ⟨c, cs, hcs, hc⟩ := exists_integerText_eq_cons n.val
      have hall := ne_of_digit_or_minus hc
      refine ⟨c, cs, hcs, ?_, hall _ (by simp)⟩
      simp only [isBlankMark, Bool.or_eq_false_iff, beq_eq_false_iff_ne]
      exact ⟨⟨⟨hall _ (by simp), hall _ (by simp)⟩, hall _ (by simp)⟩, hall _ (by simp)⟩
  | string s => exact ⟨_, _, rfl, by decide, by decide⟩
  | array items => exact ⟨_, _, rfl, by decide, by decide⟩
  | object members => exact ⟨_, _, rfl, by decide, by decide⟩

/-! ### Steps of the reader -/

section Steps

variable {fuel : Nat} {s rest : Marks} {o : Outline}

/-- After a comma there is one more item to read. -/
lemma readItems_comma (h : readValue fuel s = (o, some (some ',' :: rest))) :
    readItems (fuel + 1) s = (o :: (readItems fuel rest).1, (readItems fuel rest).2) := by
  rw [readItems, h]
  rfl

/-- A closing bracket ends the items. -/
lemma readItems_close (h : readValue fuel s = (o, some (some ']' :: rest))) :
    readItems (fuel + 1) s = ([o], some rest) := by
  rw [readItems, h]
  rfl

/-- After a comma there is one more member to read. -/
lemma readMembers_comma (k : String) (h : readValue fuel s = (o, some (some ',' :: rest))) :
    readMembers (fuel + 1) ((stringText k).map some ++ some ':' :: s) =
      ((some k, o) :: (readMembers fuel rest).1, (readMembers fuel rest).2) := by
  obtain ⟨text, htext, hread⟩ := readString_stringText k
  simp [readMembers, htext, skipBlanks, isBlankMark, hread, h]

/-- A closing brace ends the members. -/
lemma readMembers_close (k : String) (h : readValue fuel s = (o, some (some '\x7d' :: rest))) :
    readMembers (fuel + 1) ((stringText k).map some ++ some ':' :: s) =
      ([(some k, o)], some rest) := by
  obtain ⟨text, htext, hread⟩ := readString_stringText k
  simp [readMembers, htext, skipBlanks, isBlankMark, hread, h]

/-- A text that starts like a number is read as one. -/
lemma readValue_number {c : Char} {l : Literal} (hc : c.isDigit = true ∨ c = '-')
    (h : readNumber (some c :: s) = some (l, rest)) :
    readValue (fuel + 1) (some c :: s) = (.number l, some rest) := by
  have hall := ne_of_digit_or_minus hc
  simp only [List.forall_mem_cons, List.not_mem_nil, false_implies, implies_true, and_true] at hall
  obtain ⟨hsp, htab, hlf, hcr, -, hn, ht, hf, hq, hb, hbr⟩ := hall
  rw [readValue, skipBlanks_of_not_blank (by simp [isBlankMark, hsp, htab, hlf, hcr])]
  simp [hn, ht, hf, hq, hb, hbr, h]

/-- After an opening bracket the items of an array are read. -/
lemma readValue_array {c : Char} {os : List Outline} (hblank : isBlankMark (some c) = false)
    (hc : c ≠ ']') (h : readItems fuel (some c :: s) = (os, some rest)) :
    readValue (fuel + 1) (some '[' :: some c :: s) = (.array os true, some rest) := by
  rw [readValue, skipBlanks_of_not_blank (by decide)]
  simp [skipBlanks_of_not_blank hblank, hc, h]

/-- After an opening brace the members of an object are read. -/
lemma readValue_object {c : Char} {ms : List (Option String × Outline)}
    (hblank : isBlankMark (some c) = false)
    (hc : c ≠ '\x7d') (h : readMembers fuel (some c :: s) = (ms, some rest)) :
    readValue (fuel + 1) (some '\x7b' :: some c :: s) = (.object ms true, some rest) := by
  rw [readValue, skipBlanks_of_not_blank (by decide)]
  simp [skipBlanks_of_not_blank hblank, hc, h]

end Steps

/-! ### Whole values -/

/-- A text in front of others is followed by a comma. -/
lemma commaJoin_cons (t : List Char) {ts : List (List Char)} (h : ts ≠ []) :
    commaJoin (t :: ts) = t ++ ',' :: commaJoin ts := by
  cases ts with
  | nil => exact absurd rfl h
  | cons u us => rfl

/-- The items of an array are read up to its closing bracket.

**Proof sketch.** Induction on the items. The text of an item ends where a comma or the bracket
follows, so the hypothesis on the item applies; each item takes one unit of fuel. -/
lemma readItems_commaJoin {items : List Value} (hne : items ≠ [])
    (h : ∀ v ∈ items, ReadsBack v) (fuel : Nat) (rest : Marks)
    (hfuel : 2 * (commaJoin (items.map Value.chars)).length + 1 ≤ fuel) :
    readItems fuel ((commaJoin (items.map Value.chars)).map some ++ some ']' :: rest) =
      (items.map Value.outline, some rest) := by
  induction items generalizing fuel with
  | nil => exact absurd rfl hne
  | cons v vs ih =>
    obtain ⟨hv, hvs⟩ := List.forall_mem_cons.1 h
    obtain _ | fuel := fuel
    · omega
    cases vs with
    | nil =>
      simp only [List.map_cons, List.map_nil, commaJoin] at hfuel ⊢
      exact readItems_close (hv fuel _ (by omega) (endsNumber_cons (by decide) rest))
    | cons w vs =>
      rw [List.map_cons, commaJoin_cons _ (by simp)] at hfuel ⊢
      simp only [List.length_append, List.length_cons] at hfuel
      have hread := hv fuel _ (by omega) (endsNumber_cons (c := ',') (by decide)
        ((commaJoin ((w :: vs).map Value.chars)).map some ++ some ']' :: rest))
      have hrest := ih (by simp) hvs fuel (by omega)
      rw [List.map_append, List.map_cons, List.append_assoc, List.cons_append,
        readItems_comma hread, hrest]
      rfl

/-- The members of an object are read up to its closing brace. -/
lemma readMembers_commaJoin {members : Members} (hne : members ≠ [])
    (h : ∀ m ∈ members, ReadsBack m.2) (fuel : Nat) (rest : Marks)
    (hfuel : 2 * (commaJoin (memberChars members)).length + 1 ≤ fuel) :
    readMembers fuel ((commaJoin (memberChars members)).map some ++ some '\x7d' :: rest) =
      (members.map fun m => (some m.1, m.2.outline), some rest) := by
  rw [memberChars_eq_map] at hfuel ⊢
  induction members generalizing fuel with
  | nil => exact absurd rfl hne
  | cons m ms ih =>
    obtain ⟨k, v⟩ := m
    have hv : ReadsBack v := h (k, v) List.mem_cons_self
    have hms : ∀ m ∈ ms, ReadsBack m.2 := fun m hm => h m (List.mem_cons_of_mem _ hm)
    obtain _ | fuel := fuel
    · omega
    cases ms with
    | nil =>
      simp only [List.map_cons, List.map_nil, commaJoin, List.length_append, List.length_cons]
        at hfuel ⊢
      rw [List.map_append, List.map_cons, List.append_assoc, List.cons_append]
      exact readMembers_close k (hv fuel _ (by omega) (endsNumber_cons (by decide) rest))
    | cons m' ms =>
      rw [List.map_cons, commaJoin_cons _ (by simp)] at hfuel ⊢
      simp only [List.length_append, List.length_cons] at hfuel
      have hrest := ih (by simp) hms fuel (by omega)
      have hread := hv fuel _ (by omega) (endsNumber_cons (c := ',') (by decide)
        ((commaJoin ((m' :: ms).map fun m => stringText m.1 ++ ':' :: m.2.chars)).map some ++
          some '\x7d' :: rest))
      rw [List.map_append, List.map_append, List.map_cons, List.map_cons, List.append_assoc,
        List.append_assoc, List.cons_append, List.cons_append, readMembers_comma k hread, hrest]
      rfl

/-- **The compact text of a value without floating point numbers is read as its outline**, whatever
follows it, as long as that does not go on with a number.

**Proof sketch.** Induction on the value. The first character decides what is read. Brackets take
two characters and two units of fuel at least, which leaves enough fuel for what is inside. -/
lemma readsBack {v : Value} (hv : v.floatFree = true) : ReadsBack v := by
  induction v with
  | null =>
    intro fuel rest hfuel _
    obtain _ | fuel := fuel
    · simp [Value.chars] at hfuel
    rfl
  | bool b =>
    intro fuel rest hfuel _
    obtain _ | fuel := fuel
    · cases b <;> simp [Value.chars] at hfuel
    cases b <;> rfl
  | number n =>
    cases n with
    | float x => simp [Value.floatFree, Number.isInteger] at hv
    | integer n =>
      intro fuel rest hfuel hrest
      obtain ⟨c, cs, hcs, hc⟩ := exists_integerText_eq_cons n.val
      have hread := readNumber_integerText n.val hrest
      simp only [Value.chars, Number.text, Value.outline, hcs, List.map_cons, List.cons_append]
        at hfuel hread ⊢
      obtain _ | fuel := fuel
      · simp at hfuel
      exact readValue_number hc hread
  | string s =>
    intro fuel rest hfuel _
    obtain ⟨text, htext, hread⟩ := readString_stringText s
    simp only [Value.chars, Value.outline, htext, List.map_cons, List.cons_append] at hfuel ⊢
    obtain _ | fuel := fuel
    · simp at hfuel
    simp [readValue, skipBlanks, isBlankMark, hread]
  | array items ih =>
    intro fuel rest hfuel _
    simp only [Value.floatFree, itemsFloatFree_iff] at hv
    simp only [Value.chars, itemChars_eq_map, Value.outline, itemOutlines_eq_map, List.length_cons,
      List.length_append, List.length_nil] at hfuel ⊢
    obtain _ | fuel := fuel
    · omega
    cases items with
    | nil => rfl
    | cons v vs =>
      obtain ⟨c, cs, hcs, hblank, hc⟩ :=
        exists_chars_eq_cons (hv v List.mem_cons_self)
      have hitems := readItems_commaJoin (List.cons_ne_nil v vs) (fun w hw => ih w hw (hv w hw))
        fuel rest (by omega)
      obtain ⟨t, ht⟩ : ∃ t, commaJoin ((v :: vs).map Value.chars) = c :: t := by
        cases vs with
        | nil => exact ⟨cs, by rw [List.map_singleton, commaJoin, hcs]⟩
        | cons w vs => exact ⟨_, by rw [List.map_cons, commaJoin_cons _ (by simp), hcs]; rfl⟩
      rw [ht] at hitems ⊢
      simp only [List.map_cons, List.map_append, List.cons_append, List.append_assoc]
        at hitems ⊢
      exact readValue_array hblank hc hitems
  | object members ih =>
    intro fuel rest hfuel _
    simp only [Value.floatFree, membersFloatFree_iff] at hv
    simp only [Value.chars, Value.outline, memberOutlines_eq_map, List.length_cons,
      List.length_append, List.length_nil] at hfuel ⊢
    obtain _ | fuel := fuel
    · omega
    cases members with
    | nil => rfl
    | cons m ms =>
      have hmembers := readMembers_commaJoin (List.cons_ne_nil m ms) (fun w hw => ih w hw (hv w hw))
        fuel rest (by omega)
      obtain ⟨t, ht⟩ : ∃ t, commaJoin (memberChars (m :: ms)) = '"' :: t := by
        cases ms with
        | nil => exact ⟨_, rfl⟩
        | cons m' ms => exact ⟨_, rfl⟩
      rw [ht] at hmembers ⊢
      simp only [List.map_cons, List.map_append, List.cons_append, List.append_assoc]
        at hmembers ⊢
      exact readValue_object (by decide) (by decide) hmembers

/-! ## What an outline spells -/

/-- A member with a new name comes last. -/
lemma put_of_not_mem {k : String} {v : Value} {ms : Members} (h : k ∉ ms.map Prod.fst) :
    ms.put k v = ms ++ [(k, v)] := by
  induction ms with
  | nil => rfl
  | cons m ms ih =>
    simp only [List.map_cons, List.mem_cons, not_or] at h
    rw [Members.put, putEntry, if_neg (Ne.symm h.1)]
    exact congrArg (m :: ·) (ih h.2)

/-- The members of an outline are added to those that are there, if no name repeats. -/
lemma memberValues?_outline {room : Nat} {ms : Members}
    (h : ∀ m ∈ ms, m.2.outline.value? room = some m.2) (acc : Members)
    (hnd : ((acc ++ ms).map Prod.fst).Nodup) :
    memberValues? room acc (ms.map fun m => (some m.1, m.2.outline)) = some (acc ++ ms) := by
  induction ms generalizing acc with
  | nil => simp [memberValues?]
  | cons m ms ih =>
    obtain ⟨hm, hms⟩ := List.forall_mem_cons.1 h
    have hnew : m.1 ∉ acc.map Prod.fst := by
      simp only [List.map_append, List.map_cons, List.nodup_append] at hnd
      exact fun hmem => hnd.2.2 _ hmem _ List.mem_cons_self rfl
    have hput := put_of_not_mem (v := m.2) hnew
    simp only [List.map_cons, memberValues?, Option.bind_eq_bind, Option.bind_some, hm, hput]
    rw [ih hms (acc ++ [m]) (by simpa using hnd)]
    simp

/-- The outlines of the items spell the items, if each of them does. -/
lemma itemValues?_outline {room : Nat} {vs : List Value}
    (h : ∀ v ∈ vs, v.outline.value? room = some v) :
    itemValues? room (vs.map Value.outline) = some vs := by
  induction vs with
  | nil => rfl
  | cons v vs ih =>
    obtain ⟨hv, hvs⟩ := List.forall_mem_cons.1 h
    simp [itemValues?, hv, ih hvs]

/-- **The outline of a value spells this value**, if there is room for its depth. -/
lemma Value.value?_outline {v : Value} {room : Nat} (hf : v.floatFree = true)
    (hk : v.DistinctKeys) (hd : v.depth ≤ room) : v.outline.value? room = some v := by
  induction v generalizing room with
  | null => cases room <;> rfl
  | bool b => cases room <;> rfl
  | number n =>
    cases n with
    | float x => simp [floatFree, Number.isInteger] at hf
    | integer n => cases room <;> simp [outline, Outline.value?, Literal.value?_ofInt]
  | string s => cases room <;> rfl
  | array items ih =>
    obtain _ | room := room
    · simp [depth] at hd
    simp only [floatFree, itemsFloatFree_iff] at hf
    simp only [DistinctKeys, distinctItems_iff] at hk
    simp only [depth, Nat.add_le_add_iff_right, itemsDepth_le_iff] at hd
    have hitems := itemValues?_outline fun v hv => ih v hv (hf v hv) (hk v hv) (hd v hv)
    simp [outline, Outline.value?, hitems]
  | object members ih =>
    obtain _ | room := room
    · simp [depth] at hd
    simp only [floatFree, membersFloatFree_iff] at hf
    simp only [DistinctKeys, distinctMembers_iff] at hk
    simp only [depth, Nat.add_le_add_iff_right, membersDepth_le_iff] at hd
    have hmembers := memberValues?_outline
      (fun m hm => ih m hm (hf m hm) (hk.2 m hm) (hd m hm)) [] (by simpa using hk.1)
    simp [outline, Outline.value?, hmembers]

/-! ## Whole texts -/

/-- The compact text of a value without floating point numbers has the outline of this value. -/
lemma Reading.ofString_compact {v : Value} (hf : v.floatFree = true) :
    Reading.ofString v.compact = ⟨v.outline, true⟩ := by
  have h := readsBack hf (2 * v.chars.length + 2) [] (by omega) trivial
  rw [List.append_nil] at h
  simp only [Reading.ofString, Reading.ofMarks, Value.compact, String.toList_ofList,
    List.length_map, h]
  rfl

/-- **A written value is parsed as itself**: without floating point numbers and repeated names, and
with no more open arrays and objects than the reader allows. -/
lemma parseString?_compact {v : Value} (hf : v.floatFree = true) (hv : v.Fits Decoder.maxDepth) :
    parseString? v.compact = some v := by
  simp only [parseString?, Decoder.runString, Decoder.read, Reading.ofString_compact hf,
    Decoder.value, Value.value?_outline hf hv.distinctKeys hv.depth_le]
  rfl

/-- **No compact text is the start of another one**: in front of texts that do not go on with a
number, equal texts come from equal values.

**Proof sketch.** The reader takes the text of each value off the front and leaves the rest, so the
outlines and the rests are equal. With room for the deeper of the two, the outlines spell the
values. -/
lemma chars_append_inj {v w : Value} {r s : List Char} (hv : v.Legible) (hw : w.Legible)
    (hr : EndsNumber (r.map some)) (hs : EndsNumber (s.map some))
    (h : v.chars ++ r = w.chars ++ s) : v = w ∧ r = s := by
  have hreadv := readsBack hv.floatFree (2 * (v.chars.length + w.chars.length)) _ (by omega) hr
  have hreadw := readsBack hw.floatFree (2 * (v.chars.length + w.chars.length)) _ (by omega) hs
  rw [← List.map_append, h, List.map_append, hreadw, Prod.mk.injEq, Option.some.injEq] at hreadv
  obtain ⟨houtline, hrest⟩ := hreadv
  have hvaluev := Value.value?_outline hv.floatFree hv.distinctKeys (le_max_left v.depth w.depth)
  have hvaluew := Value.value?_outline hw.floatFree hw.distinctKeys (le_max_right v.depth w.depth)
  rw [← houtline, hvaluew, Option.some.injEq] at hvaluev
  exact ⟨hvaluev.symm, ((List.map_injective_iff.2 (Option.some_injective Char)) hrest).symm⟩

/-- **Values with the same compact text are equal.** -/
lemma compact_inj {v w : Value} (hv : v.Legible) (hw : w.Legible) (h : v.compact = w.compact) :
    v = w := by
  have hchars : v.chars ++ [] = w.chars ++ [] := congrArg (· ++ []) (String.ofList_injective h)
  exact (chars_append_inj (r := []) (s := []) hv hw trivial trivial hchars).1

end HttpStub.Json
