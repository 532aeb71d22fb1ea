import HttpStub.Proofs.Json.Order
import HttpStub.Proofs.Json.Parsed
import HttpStub.Proofs.Json.Text
import HttpStub.Proofs.Stub.Verdict
import HttpStub.Proofs.Text.Split

set_option autoImplicit false

/-!
# Canonical texts and equality of values

Two values count as equal when they differ in the order of members and in the spelling of numbers
only. Their canonical texts are the same exactly then: the text of a value can be told from what
follows it, at every depth, whatever the strings in it.

## Main definitions

* `HttpStub.Json.Value.Equivalent` — equality of values up to the order of members and the spelling
  of numbers.
* `HttpStub.Json.NumberText` — texts with the characters of numbers only.
* `HttpStub.Json.Kind` — the kinds of values, which their first characters tell.
* `HttpStub.Json.Delimited` — what can stand behind a value.

## Main results

* `HttpStub.Json.NumberText.canonicalText`, `HttpStub.Json.canonicalText_ne_nil` — the canonical
  texts of numbers.
* `HttpStub.Json.forall₂_of_commaJoin_append_eq` — lists are told apart by their texts.
* `HttpStub.Json.Value.equivalent_of_append_eq` — canonical texts are told apart.
* `HttpStub.canonical_decides_equivalence` — what the canonical text and the comparison of bodies
  decide.
-/

namespace HttpStub

namespace Json

/-! ## Equivalent values -/

/-- **Equivalence of JSON values**: the same word or string, numbers with the same canonical text,
arrays of the same length whose items are equivalent place by place, objects with the same names
whose values are equivalent name by name. -/
inductive Value.Equivalent : Value → Value → Prop
  | null : Equivalent .null .null
  | bool (b : Bool) : Equivalent (.bool b) (.bool b)
  | number {m n : Number} (text : m.canonicalText = n.canonicalText) :
    Equivalent (.number m) (.number n)
  | string (s : String) : Equivalent (.string s) (.string s)
  | array {vs ws : List Value} (length : vs.length = ws.length)
    (items : ∀ (i : Nat) (v w : Value), vs[i]? = some v → ws[i]? = some w → Equivalent v w) :
    Equivalent (.array vs) (.array ws)
  | object {ms ns : Members} (keys : ∀ k, k ∈ ms.keys ↔ k ∈ ns.keys)
    (values : ∀ k v w, (k, v) ∈ ms → (k, w) ∈ ns → Equivalent v w) :
    Equivalent (.object ms) (.object ns)

/-! ## The texts of numbers -/

/-- The characters that numbers are written with. -/
def NumberChar (c : Char) : Prop :=
  c.isDigit = true ∨ c ∈ ['+', '-', '.', 'e']

instance (c : Char) : Decidable (NumberChar c) :=
  inferInstanceAs (Decidable (_ ∨ _))

/-- The text has none but characters that numbers are written with. -/
def NumberText (cs : List Char) : Prop :=
  ∀ c ∈ cs, NumberChar c

instance (cs : List Char) : Decidable (NumberText cs) :=
  List.decidableBAll NumberChar cs

namespace NumberText

variable {cs ds : List Char}

/-- Two such texts one after the other. -/
lemma append (hc : NumberText cs) (hd : NumberText ds) : NumberText (cs ++ ds) :=
  List.forall_mem_append.2 ⟨hc, hd⟩

/-- One more such character in front. -/
lemma cons {c : Char} (hc : NumberChar c) (hd : NumberText ds) : NumberText (c :: ds) :=
  List.forall_mem_cons.2 ⟨hc, hd⟩

/-- The start of such a text. -/
lemma take (h : NumberText cs) (n : Nat) : NumberText (cs.take n) :=
  fun c hc => h c (List.mem_of_mem_take hc)

/-- The rest of such a text. -/
lemma drop (h : NumberText cs) (n : Nat) : NumberText (cs.drop n) :=
  fun c hc => h c (List.mem_of_mem_drop hc)

/-- A run of zeros. -/
lemma zeros (n : Nat) : NumberText (List.replicate n '0') := by
  intro c hc
  obtain rfl := List.eq_of_mem_replicate hc
  decide

/-- The digits of a natural number. -/
lemma toDigits (n : Nat) : NumberText (Nat.toDigits 10 n) :=
  fun _ hc => .inl (Nat.isDigit_of_mem_toDigits (by decide) le_rfl hc)

/-- A whole number is written with digits, perhaps after a sign. -/
lemma integerText (n : Int) : NumberText (Number.integerText n) := by
  unfold Number.integerText
  split
  · exact cons (by decide) (toDigits _)
  · exact toDigits _

/-- One case for each way to set the point. -/
lemma decimalText (d : Decimal) : NumberText (Number.decimalText d) := by
  have hdigits := toDigits d.digits
  unfold Number.decimalText
  dsimp only
  split_ifs
  · decide
  · exact ((show NumberText ['0', '.'] by decide).append (zeros _)).append hdigits
  · exact (hdigits.take _).append (cons (by decide) (hdigits.drop _))
  · exact (hdigits.append (zeros _)).append (by decide)
  · exact (((hdigits.take 1).append (by decide)).append (by decide)).append (toDigits _)
  · exact (((hdigits.take 1).append (by decide)).append (by decide)).append (toDigits _)
  · exact (((hdigits.take 1).append (cons (by decide) (hdigits.drop 1))).append
      (by decide)).append (toDigits _)
  · exact (((hdigits.take 1).append (cons (by decide) (hdigits.drop 1))).append
      (by decide)).append (toDigits _)

/-- A floating point number is written as a decimal number, perhaps after a sign. -/
lemma floatText (x : Binary64) : NumberText (Number.floatText x) := by
  unfold Number.floatText
  split
  · exact cons (by decide) (decimalText _)
  · exact decimalText _

/-- **A canonical text of a number** has digits, signs, points and `e` only. -/
lemma canonicalText (n : Number) : NumberText n.canonicalText := by
  cases n with
  | integer n => exact integerText n.val
  | float x =>
    unfold Number.canonicalText
    dsimp only
    split
    · exact integerText _
    · exact floatText x

end NumberText

/-- The text of a whole number is not empty. -/
lemma integerText_ne_nil (n : Int) : Number.integerText n ≠ [] := by
  obtain ⟨c, cs, h, -⟩ := exists_integerText_eq_cons n
  rw [h]
  exact List.cons_ne_nil c cs

/-- The text of a decimal number is not empty, wherever its point is set. -/
lemma decimalText_ne_nil (d : Decimal) : Number.decimalText d ≠ [] := by
  unfold Number.decimalText
  dsimp only
  split_ifs <;> simp

/-- **The canonical text of a number is not empty.** -/
lemma canonicalText_ne_nil (n : Number) : n.canonicalText ≠ [] := by
  cases n with
  | integer n => exact integerText_ne_nil n.val
  | float x =>
    unfold Number.canonicalText
    dsimp only
    split
    · exact integerText_ne_nil _
    · unfold Number.floatText
      split
      · exact List.cons_ne_nil _ _
      · exact decimalText_ne_nil _

/-! ## Texts that are told apart -/

/-- The characters that follow a value inside an array or an object. -/
def closers : List Char :=
  [',', ']', '\x7d']

/-- What follows a value: nothing, or a character that can stand behind one. -/
def Delimited (cs : List Char) : Prop :=
  ∀ c ∈ cs.head?, c ∈ closers

/-- A text that starts with such a character can stand behind a value. -/
lemma delimited_cons {c : Char} (h : c ∈ closers) (cs : List Char) : Delimited (c :: cs) := by
  rintro d hd
  obtain rfl := Option.some.inj hd
  exact h

/-- What follows a value cannot go on with a number. -/
lemma not_numberChar_of_mem_closers {c : Char} (h : c ∈ closers) : ¬ NumberChar c := by
  have hall : ∀ c ∈ closers, ¬ NumberChar c := by
    simp only [closers, List.forall_mem_cons, List.not_mem_nil, false_implies, implies_true,
      and_true]
    decide
  exact hall c h

/-- A number ends where something else follows. -/
lemma Delimited.not_numberChar {cs : List Char} (h : Delimited cs) :
    ∀ c ∈ cs.head?, ¬ NumberChar c :=
  fun c hc => not_numberChar_of_mem_closers (h c hc)

/-- A string between quotation marks can be told from what follows it. -/
lemma stringText_append_inj {s t : String} {r r' : List Char}
    (h : stringText s ++ r = stringText t ++ r') : s = t ∧ r = r' := by
  obtain ⟨text, htext, hread⟩ := readString_stringText s
  obtain ⟨text', htext', hread'⟩ := readString_stringText t
  rw [htext, htext', List.cons_append, List.cons_append, List.cons.injEq] at h
  have hs := hread (r.map some)
  rw [← List.map_append, h.2, List.map_append, hread', Option.some.injEq, Prod.mk.injEq,
    Option.some.injEq] at hs
  exact ⟨hs.1.symm, (List.map_injective_iff.2 (Option.some_injective Char) hs.2).symm⟩

/-- The kinds of JSON values. -/
inductive Kind where
  | null
  | bool
  | number
  | string
  | array
  | object
  deriving DecidableEq

/-- The kind of a value. -/
def Value.kind : Value → Kind
  | .null => .null
  | .bool _ => .bool
  | .number _ => .number
  | .string _ => .string
  | .array _ => .array
  | .object _ => .object

/-- The kind of the values whose text starts with the character. -/
def Kind.ofLead (c : Char) : Kind :=
  if c = 'n' then .null
  else if c = 't' ∨ c = 'f' then .bool
  else if c = '"' then .string
  else if c = '[' then .array
  else if c = '\x7b' then .object
  else .number

/-- A text that starts like a number is one of a number. -/
lemma Kind.ofLead_of_numberChar {c : Char} (h : NumberChar c) : ofLead c = .number := by
  have hno : ∀ d ∈ ['n', 't', 'f', '"', '[', '\x7b'], ¬ NumberChar d := by
    simp only [List.forall_mem_cons, List.not_mem_nil, false_implies, implies_true, and_true]
    decide
  have hne : ∀ d ∈ ['n', 't', 'f', '"', '[', '\x7b'], c ≠ d := by
    rintro d hd rfl
    exact hno c hd h
  simp only [List.forall_mem_cons, List.not_mem_nil, false_implies, implies_true, and_true] at hne
  obtain ⟨hn, ht, hf, hq, hb, hbr⟩ := hne
  simp [ofLead, hn, ht, hf, hq, hb, hbr]

/-- **The first character tells the kind of a value**, and none of them closes an array. -/
lemma Value.exists_canonicalChars_eq_cons (v : Value) :
    ∃ c cs, v.canonicalChars = c :: cs ∧ Kind.ofLead c = v.kind ∧ c ∉ closers := by
  cases v with
  | null => exact ⟨_, _, rfl, by decide, by decide⟩
  | bool b => cases b <;> exact ⟨_, _, rfl, by decide, by decide⟩
  | number n =>
    obtain ⟨c, cs, hcs⟩ := List.exists_cons_of_ne_nil (canonicalText_ne_nil n)
    have hc : NumberChar c := NumberText.canonicalText n c (hcs ▸ List.mem_cons_self)
    exact ⟨c, cs, hcs, Kind.ofLead_of_numberChar hc,
      fun hmem => not_numberChar_of_mem_closers hmem hc⟩
  | string s => exact ⟨_, _, rfl, rfl, by decide⟩
  | array items => exact ⟨_, _, rfl, rfl, by decide⟩
  | object members => exact ⟨_, _, rfl, rfl, by decide⟩

/-- Values whose texts start alike are of the same kind. -/
lemma Value.kind_eq_of_append_eq {v w : Value} {r s : List Char}
    (h : v.canonicalChars ++ r = w.canonicalChars ++ s) : v.kind = w.kind := by
  obtain ⟨c, cs, hcs, hc, -⟩ := v.exists_canonicalChars_eq_cons
  obtain ⟨d, ds, hds, hd, -⟩ := w.exists_canonicalChars_eq_cons
  rw [hcs, hds, List.cons_append, List.cons_append, List.cons.injEq] at h
  rw [← hc, ← hd, h.1]

/-- A member as it stands in the canonical text of an object. -/
def canonicalMember (m : String × Value) : List Char :=
  stringText m.1 ++ ':' :: m.2.canonicalChars

/-- The canonical text of an object lists its members sorted by their names. -/
lemma Value.canonicalChars_object (ms : Members) :
    (Value.object ms).canonicalChars =
      '\x7b' :: (commaJoin ((sortByKey ms).map canonicalMember) ++ ['\x7d']) := by
  simp only [canonicalChars, canonicalMembers_eq_map, sortByKey_map, List.map_map]
  rfl

/-- The canonical text of an array lists its items. -/
lemma Value.canonicalChars_array (vs : List Value) :
    (Value.array vs).canonicalChars = '[' :: (commaJoin (vs.map canonicalChars) ++ [']']) := by
  simp only [canonicalChars, canonicalItems_eq_map]

/-! ### Lists -/

section Lists

variable {α : Type} {text : α → List Char} {close : Char}

/-- A list of texts starts with the first one, and what follows that can stand behind a value. -/
lemma exists_commaJoin_cons (text : α → List Char) (hclose : close ∈ closers) (x : α) (xs : List α)
    (r : List Char) :
    ∃ t, commaJoin ((x :: xs).map text) ++ close :: r = text x ++ t ∧ Delimited t ∧
      (xs = [] ∧ t = close :: r ∨
        xs ≠ [] ∧ t = ',' :: (commaJoin (xs.map text) ++ close :: r)) := by
  cases xs with
  | nil => exact ⟨close :: r, rfl, delimited_cons hclose r, .inl ⟨rfl, rfl⟩⟩
  | cons y ys =>
    refine ⟨',' :: (commaJoin ((y :: ys).map text) ++ close :: r), ?_,
      delimited_cons (by decide) _, .inr ⟨List.cons_ne_nil y ys, rfl⟩⟩
    rw [List.map_cons, commaJoin_cons _ (by simp), List.append_assoc, List.cons_append]

/-- **Lists are told apart by their texts**, if their items are: items at the same place are
related, and the same follows behind the lists.

**Proof sketch.** Induction on the first list. The texts of the first items are followed by a comma
or by the closing character in both lists, so the items are related and the same follows. No item
starts with the closing character, and that is no comma, so both lists end at the same place. -/
lemma forall₂_of_commaJoin_append_eq {R : α → α → Prop} (hclose : close ∈ closers)
    (hcomma : close ≠ ',') (hlead : ∀ x, ∃ c cs, text x = c :: cs ∧ c ∉ closers) {xs ys : List α}
    {r s : List Char}
    (hinj : ∀ x ∈ xs, ∀ y ∈ ys, ∀ r s, Delimited r → Delimited s → text x ++ r = text y ++ s →
      R x y ∧ r = s)
    (h : commaJoin (xs.map text) ++ close :: r = commaJoin (ys.map text) ++ close :: s) :
    List.Forall₂ R xs ys ∧ r = s := by
  have hempty : ∀ (z : α) (zs : List α) (r s : List Char),
      close :: r ≠ commaJoin ((z :: zs).map text) ++ close :: s := by
    intro z zs r s heq
    obtain ⟨t, ht, -, -⟩ := exists_commaJoin_cons text hclose z zs s
    obtain ⟨c, cs, hcs, hc⟩ := hlead z
    rw [ht, hcs, List.cons_append, List.cons.injEq] at heq
    exact hc (heq.1 ▸ hclose)
  induction xs generalizing ys with
  | nil =>
    cases ys with
    | nil => exact ⟨List.Forall₂.nil, (List.cons.inj h).2⟩
    | cons y ys => exact absurd h (hempty y ys r s)
  | cons x xs ih =>
    cases ys with
    | nil => exact absurd h.symm (hempty x xs s r)
    | cons y ys =>
      obtain ⟨t, ht, hdt, hcase⟩ := exists_commaJoin_cons text hclose x xs r
      obtain ⟨u, hu, hdu, hcase'⟩ := exists_commaJoin_cons text hclose y ys s
      rw [ht, hu] at h
      obtain ⟨hxy, rfl⟩ := hinj x List.mem_cons_self y List.mem_cons_self t u hdt hdu h
      rcases hcase with ⟨rfl, heq⟩ | ⟨-, heq⟩ <;> rcases hcase' with ⟨rfl, heq'⟩ | ⟨-, heq'⟩
      · rw [heq, List.cons.injEq] at heq'
        exact ⟨.cons hxy .nil, heq'.2⟩
      · rw [heq, List.cons.injEq] at heq'
        exact absurd heq'.1 hcomma
      · rw [heq, List.cons.injEq] at heq'
        exact absurd heq'.1.symm hcomma
      · rw [heq, List.cons.injEq] at heq'
        obtain ⟨hrest, hrs⟩ := ih
          (fun x hx y hy => hinj x (List.mem_cons_of_mem _ hx) y (List.mem_cons_of_mem _ hy))
          heq'.2
        exact ⟨.cons hxy hrest, hrs⟩

end Lists

/-! ### Values -/

namespace Value

/-- The items of two arrays are equivalent place by place. -/
lemma equivalent_array_of_forall₂ {vs ws : List Value} (h : List.Forall₂ Equivalent vs ws) :
    (Value.array vs).Equivalent (.array ws) := by
  refine .array h.length_eq fun i v w hv hw => ?_
  obtain ⟨hiv, rfl⟩ := List.getElem?_eq_some_iff.1 hv
  obtain ⟨hiw, rfl⟩ := List.getElem?_eq_some_iff.1 hw
  exact h.get hiv hiw

/-- Objects whose sorted members have the same names and equivalent values one by one are
equivalent. -/
lemma equivalent_object_of_forall₂ {ms ns : Members} (hns : (ns.map Prod.fst).Nodup)
    (h : List.Forall₂ (fun m n => m.1 = n.1 ∧ m.2.Equivalent n.2) (sortByKey ms) (sortByKey ns)) :
    (Value.object ms).Equivalent (.object ns) := by
  have hkeys : (sortByKey ms).map Prod.fst = (sortByKey ns).map Prod.fst := by
    rw [← List.forall₂_eq_eq_eq, List.forall₂_map_left_iff, List.forall₂_map_right_iff]
    exact h.imp fun _ _ hmn => hmn.1
  refine .object (fun k => ?_) fun k v w hv hw => ?_
  · rw [Members.keys, Members.keys, ← (keys_sortByKey_perm ms).mem_iff, hkeys,
      (keys_sortByKey_perm ns).mem_iff]
  · obtain ⟨i, hi, hiv⟩ := List.getElem_of_mem ((sortByKey_perm ms).mem_iff.2 hv)
    have hj : i < (sortByKey ns).length := h.length_eq ▸ hi
    obtain ⟨hname, hvalue⟩ := h.get hi hj
    -- the name occurs once among the members, so the one at this place is the given one
    have hmem : (sortByKey ns)[i] ∈ ns := (sortByKey_perm ns).mem_iff.1 (List.getElem_mem hj)
    simp only [List.get_eq_getElem, hiv] at hname hvalue
    have heq := List.inj_on_of_nodup_map hns hmem hw hname.symm
    rwa [heq] at hvalue

/-- **Canonical texts are told apart**: in front of what can stand behind values, equal texts come
from equivalent values.

**Proof sketch.** Induction on the first value. The first character decides the kind of both
(`kind_eq_of_append_eq`). A number ends at the first character that is none of a number, a string at
its quotation mark; the items of an array and the sorted members of an object are told apart one by
one. -/
lemma equivalent_of_append_eq {v w : Value} (hv : v.DistinctKeys) (hw : w.DistinctKeys)
    {r s : List Char} (hr : Delimited r) (hs : Delimited s)
    (h : v.canonicalChars ++ r = w.canonicalChars ++ s) : v.Equivalent w ∧ r = s := by
  induction v generalizing w r s with
  | null =>
    have hkind := kind_eq_of_append_eq h
    cases w with
    | null => exact ⟨.null, List.append_cancel_left h⟩
    | _ => simp [kind] at hkind
  | bool b =>
    have hkind := kind_eq_of_append_eq h
    cases w with
    | bool c =>
      cases b <;> cases c
      · exact ⟨.bool false, List.append_cancel_left h⟩
      · simp [canonicalChars] at h
      · simp [canonicalChars] at h
      · exact ⟨.bool true, List.append_cancel_left h⟩
    | _ => simp [kind] at hkind
  | number m =>
    have hkind := kind_eq_of_append_eq h
    cases w with
    | number n =>
      obtain ⟨htext, hrs⟩ := append_inj_of_forall (NumberText.canonicalText m)
        (NumberText.canonicalText n) hr.not_numberChar hs.not_numberChar h
      exact ⟨.number htext, hrs⟩
    | _ => simp [kind] at hkind
  | string t =>
    have hkind := kind_eq_of_append_eq h
    cases w with
    | string u =>
      obtain ⟨rfl, hrs⟩ := stringText_append_inj h
      exact ⟨.string t, hrs⟩
    | _ => simp [kind] at hkind
  | array vs ih =>
    have hkind := kind_eq_of_append_eq h
    cases w with
    | array ws =>
      simp only [DistinctKeys, distinctItems_iff] at hv hw
      rw [canonicalChars_array, canonicalChars_array, List.cons_append, List.cons_append,
        List.cons.injEq, List.append_assoc, List.append_assoc] at h
      have hlead : ∀ v : Value, ∃ c cs, v.canonicalChars = c :: cs ∧ c ∉ closers := by
        intro v
        obtain ⟨c, cs, hcs, -, hc⟩ := v.exists_canonicalChars_eq_cons
        exact ⟨c, cs, hcs, hc⟩
      obtain ⟨hitems, hrs⟩ := forall₂_of_commaJoin_append_eq (by decide) (by decide) hlead
        (fun v hmem w hmem' r s hr hs h => ih v hmem (hv v hmem) (hw w hmem') hr hs h) h.2
      exact ⟨equivalent_array_of_forall₂ hitems, hrs⟩
    | _ => simp [kind] at hkind
  | object ms ih =>
    have hkind := kind_eq_of_append_eq h
    cases w with
    | object ns =>
      simp only [DistinctKeys, distinctMembers_iff] at hv hw
      rw [canonicalChars_object, canonicalChars_object, List.cons_append, List.cons_append,
        List.cons.injEq, List.append_assoc, List.append_assoc] at h
      have hinj : ∀ m ∈ sortByKey ms, ∀ n ∈ sortByKey ns, ∀ r s, Delimited r → Delimited s →
          canonicalMember m ++ r = canonicalMember n ++ s →
            (m.1 = n.1 ∧ m.2.Equivalent n.2) ∧ r = s := by
        intro m hm n hn r s hr hs h
        rw [canonicalMember, canonicalMember, List.append_assoc, List.append_assoc] at h
        obtain ⟨hname, hrest⟩ := stringText_append_inj h
        rw [List.cons_append, List.cons_append, List.cons.injEq] at hrest
        have hm := (sortByKey_perm ms).mem_iff.1 hm
        have hn := (sortByKey_perm ns).mem_iff.1 hn
        obtain ⟨hvalue, hrs⟩ := ih m hm (hv.2 m hm) (hw.2 n hn) hr hs hrest.2
        exact ⟨⟨hname, hvalue⟩, hrs⟩
      obtain ⟨hmembers, hrs⟩ := forall₂_of_commaJoin_append_eq (by decide) (by decide)
        (fun m => ⟨'"', _, rfl, by decide⟩) hinj h.2
      exact ⟨equivalent_object_of_forall₂ hw.1 hmembers, hrs⟩
    | _ => simp [kind] at hkind

/-- The members of equivalent objects have the same names and, name by name, the same canonical
texts. -/
lemma mem_map_canonicalChars_of_equivalent {ms ns : Members}
    (hkeys : ∀ k, k ∈ ms.keys ↔ k ∈ ns.keys)
    (htexts : ∀ k v w, (k, v) ∈ ms → (k, w) ∈ ns → v.canonicalChars = w.canonicalChars)
    {p : String × List Char} (hp : p ∈ ms.map fun m => (m.1, m.2.canonicalChars)) :
    p ∈ ns.map fun m => (m.1, m.2.canonicalChars) := by
  obtain ⟨⟨k, v⟩, hm, rfl⟩ := List.mem_map.1 hp
  obtain ⟨⟨k', w⟩, hn, hk⟩ := List.mem_map.1 ((hkeys k).1 (List.mem_map_of_mem hm))
  obtain rfl : k' = k := hk
  exact List.mem_map.2 ⟨(k', w), hn, by rw [htexts k' v w hm hn]⟩

/-- **Equivalent values have the same canonical text.**

**Proof sketch.** Induction on the equivalence. The members of equivalent objects are, with their
texts, permutations of each other; sorted by names that do not repeat they are equal. -/
lemma Equivalent.canonicalChars_eq {v w : Value} (h : v.Equivalent w) (hv : v.DistinctKeys)
    (hw : w.DistinctKeys) : v.canonicalChars = w.canonicalChars := by
  induction h with
  | null => rfl
  | bool b => rfl
  | number text => exact text
  | string s => rfl
  | @array vs ws length items ih =>
    simp only [DistinctKeys, distinctItems_iff] at hv hw
    have htexts : vs.map canonicalChars = ws.map canonicalChars := by
      refine List.ext_getElem (by simpa using length) fun i hi hj => ?_
      rw [List.length_map] at hi hj
      rw [List.getElem_map, List.getElem_map]
      exact ih i _ _ (List.getElem?_eq_getElem hi) (List.getElem?_eq_getElem hj)
        (hv _ (List.getElem_mem hi)) (hw _ (List.getElem_mem hj))
    rw [canonicalChars_array, canonicalChars_array, htexts]
  | @object ms ns keys values ih =>
    simp only [DistinctKeys, distinctMembers_iff] at hv hw
    have htexts : ∀ k v w, (k, v) ∈ ms → (k, w) ∈ ns → v.canonicalChars = w.canonicalChars :=
      fun k v w hm hn => ih k v w hm hn (hv.2 _ hm) (hw.2 _ hn)
    have hnodup : ∀ ms : Members, (ms.map Prod.fst).Nodup →
        ((ms.map fun m => (m.1, m.2.canonicalChars)).map Prod.fst).Nodup := by
      intro ms hms
      simpa only [List.map_map, Function.comp_def] using hms
    have hperm : (ms.map fun m => (m.1, m.2.canonicalChars)).Perm
        (ns.map fun m => (m.1, m.2.canonicalChars)) :=
      (List.perm_ext_iff_of_nodup (hnodup ms hv.1).of_map (hnodup ns hw.1).of_map).2 fun p =>
        ⟨mem_map_canonicalChars_of_equivalent keys htexts,
          mem_map_canonicalChars_of_equivalent (fun k => (keys k).symm)
            fun k v w hm hn => (htexts k w v hn hm).symm⟩
    rw [canonicalChars, canonicalChars, canonicalMembers_eq_map, canonicalMembers_eq_map,
      sortByKey_eq_of_perm (hnodup ms hv.1) hperm]

/-- **Values have the same canonical text exactly where they are equivalent.** -/
lemma canonical_eq_iff_equivalent {v w : Value} (hv : v.DistinctKeys) (hw : w.DistinctKeys) :
    v.canonical = w.canonical ↔ v.Equivalent w := by
  constructor
  · intro h
    have hchars : v.canonicalChars ++ [] = w.canonicalChars ++ [] :=
      congrArg (· ++ []) (String.ofList_injective h)
    exact (equivalent_of_append_eq (r := []) (s := []) hv hw (by simp [Delimited])
      (by simp [Delimited]) hchars).1
  · intro h
    rw [canonical, h.canonicalChars_eq hv hw, canonical]

end Value

end Json

/-! ## The comparison of bodies -/

open Json (Value)

/-- The value that a body is compared with repeats no name, if the value that is given does not. -/
lemma distinctKeys_of_expectedJson? {expected v : Value} (h : expectedJson? expected = some v)
    (hk : expected.DistinctKeys) : v.DistinctKeys := by
  unfold expectedJson? at h
  split at h
  · exact (Json.fits_of_parseString? h).distinctKeys
  · obtain rfl := Option.some.inj h
    exact hk

/-- **The canonical text decides equality of JSON values**: values have the same one exactly where
they are equivalent, and so a body is JSON equal to what is expected exactly where both are values
and these are equivalent. -/
theorem canonical_decides_equivalence :
    (∀ v w : Value, v.DistinctKeys → w.DistinctKeys →
      (v.canonical = w.canonical ↔ v.Equivalent w)) ∧
    ∀ (expected : Value) (body : Bytes), expected.DistinctKeys →
      (jsonEqual expected body = true ↔
        ∃ v w, expectedJson? expected = some v ∧ Json.parse? body = some w ∧ v.Equivalent w) := by
  refine ⟨fun v w hv hw => Value.canonical_eq_iff_equivalent hv hw, fun expected body hk => ?_⟩
  rw [jsonEqual_iff]
  refine exists_congr fun v => exists_congr fun w => ?_
  refine and_congr_right fun hv => and_congr_right fun hw => ?_
  exact Value.canonical_eq_iff_equivalent (distinctKeys_of_expectedJson? hv hk)
    (Json.fits_of_parse? hw).distinctKeys

end HttpStub
