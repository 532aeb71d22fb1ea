import HttpStub.Proofs.Regex.Match
import Mathlib.Data.Char
import Mathlib.Tactic.IntervalCases

set_option autoImplicit false

/-!
# What the groups of an expression capture

A group captures the part of a text that it matches within a match of the whole expression. Parts
are given by their texts instead of their places, so matches of one expression after the other are
texts one after the other.

## Main definitions

* `HttpStub.Regex.Node.Captures` — a group matches a part within a match of the expression.
* `HttpStub.Regex.Spans` — the text between two places.

## Main results

* `HttpStub.Regex.spans_append_iff` — a text that is made of two.
* `HttpStub.Regex.Node.matches_literal_iff`, `HttpStub.Regex.Node.matches_run_iff` — the texts that
  a character matches, and a run of characters from a set.
-/

namespace HttpStub.Regex

/-! ## Captures -/

/-- Within a match of the expression between the places `i` and `j`, one of its groups matches
between the places `k` and `l`. -/
def Node.Captures (text : Array Char) : Node → Nat → Nat → Nat → Nat → Prop
  | .empty, _, _, _, _ => False
  | .char _, _, _, _, _ => False
  | .look _, _, _, _, _ => False
  | .seq a b, i, j, k, l =>
    ∃ m, (a.Captures text i m k l ∧ b.Matches text m j) ∨
      (a.Matches text i m ∧ b.Captures text m j k l)
  | .alt a b, i, j, k, l => a.Captures text i j k l ∨ b.Captures text i j k l
  | .group a, i, j, k, l => (a.Matches text i j ∧ i = k ∧ j = l) ∨ a.Captures text i j k l
  | .times a low high, i, j, k, l =>
    ∃ before after more m n, (∀ h ∈ high, more ≤ h - low) ∧ before + 1 + after = low + more ∧
      Rounds (a.Matches text) before i m ∧ a.Captures text m n k l ∧
        Rounds (a.Matches text) after n j

/-! ## Texts between two places -/

/-- The text `x` stands between the places `i` and `j`. -/
def Spans (text : List Char) (i : Nat) (x : List Char) (j : Nat) : Prop :=
  text.drop i = x ++ text.drop j ∧ i + x.length = j

section Spans

variable {text x y : List Char} {c : Char} {i j k : Nat}

/-- The empty text stands between a place and itself. -/
@[simp] lemma spans_nil_iff : Spans text i [] j ↔ i = j := by
  constructor
  · exact fun h => h.2
  · rintro rfl
    exact ⟨rfl, rfl⟩

/-- A text of one character stands between the place of this character and the next one. -/
lemma spans_singleton_iff : Spans text i [c] j ↔ text[i]? = some c ∧ i + 1 = j := by
  constructor
  · rintro ⟨h, rfl⟩
    refine ⟨?_, rfl⟩
    rw [← List.head?_drop, h]
    rfl
  · rintro ⟨h, rfl⟩
    obtain ⟨hi, hc⟩ := List.getElem?_eq_some_iff.1 h
    refine ⟨?_, rfl⟩
    rw [List.drop_eq_getElem_cons hi, hc]
    rfl

/-- **A text that is made of two** can be cut between them. -/
lemma spans_append_iff : Spans text i (x ++ y) k ↔ ∃ j, Spans text i x j ∧ Spans text j y k := by
  constructor
  · rintro ⟨h, rfl⟩
    have hdrop : text.drop (i + x.length) = y ++ text.drop (i + (x ++ y).length) := by
      rw [← List.drop_drop, h, List.append_assoc, List.drop_left]
    refine ⟨i + x.length, ⟨?_, rfl⟩, hdrop, ?_⟩
    · rw [hdrop, h, List.append_assoc]
    · rw [List.length_append, Nat.add_assoc]
  · rintro ⟨j, ⟨hx, rfl⟩, hy, rfl⟩
    refine ⟨?_, ?_⟩
    · rw [hx, hy, List.append_assoc]
    · rw [List.length_append, Nat.add_assoc]

/-- A text starts with its first character, and the others come after it. -/
lemma spans_cons_iff : Spans text i (c :: x) k ↔ ∃ j, Spans text i [c] j ∧ Spans text j x k :=
  spans_append_iff (x := [c])

/-- Only one text stands between two places. -/
lemma Spans.unique (hx : Spans text i x j) (hy : Spans text i y j) : x = y :=
  List.append_cancel_right (hx.1.symm.trans hy.1)

/-- The text from the first place to the last one is the whole of it. -/
lemma spans_all_iff : Spans text 0 x j ∧ text[j]? = none ↔ text = x ∧ j = text.length := by
  constructor
  · rintro ⟨⟨h, rfl⟩, hend⟩
    have hnil : text.drop (0 + x.length) = [] :=
      List.drop_eq_nil_of_le (List.getElem?_eq_none_iff.1 hend)
    rw [List.drop_zero, hnil, List.append_nil] at h
    exact ⟨h, by rw [h, Nat.zero_add]⟩
  · rintro ⟨rfl, rfl⟩
    exact ⟨⟨by simp, by simp⟩, by simp⟩

end Spans

/-! ## Matches by their texts -/

/-- The set of one character contains this character alone. -/
lemma CharSet.contains_single_iff {c d : Char} :
    (CharSet.single .exact c).contains d = true ↔ d = c := by
  simp only [CharSet.single, CharSet.contains, Casing.variants, List.any_cons, List.any_nil,
    Bool.or_false, Bool.and_eq_true, decide_eq_true_eq]
  constructor
  · exact fun h => le_antisymm h.2 h.1
  · rintro rfl
    exact ⟨le_rfl, le_rfl⟩

namespace Node

variable {text : List Char} {s : CharSet} {i j n : Nat}

/-- A character that stands for itself. -/
def literal (c : Char) : Node :=
  .char (.single .exact c)

/-- Two expressions match one after the other, with a place between them. -/
lemma matches_seq_iff {a b : Node} {chars : Array Char} :
    (Node.seq a b).Matches chars i j ↔ ∃ k, a.Matches chars i k ∧ b.Matches chars k j :=
  Iff.rfl

/-- A set of characters matches one character that it contains. -/
lemma matches_char_iff :
    (Node.char s).Matches text.toArray i j ↔ ∃ c, Spans text i [c] j ∧ s.contains c = true := by
  simp only [Matches, spans_singleton_iff, List.getElem?_toArray]
  constructor
  · rintro ⟨⟨c, hc, hs⟩, rfl⟩
    exact ⟨c, ⟨hc, rfl⟩, hs⟩
  · rintro ⟨c, ⟨hc, rfl⟩, hs⟩
    exact ⟨⟨c, hc, hs⟩, rfl⟩

/-- **A character that stands for itself** matches itself alone. -/
lemma matches_literal_iff {c : Char} :
    (literal c).Matches text.toArray i j ↔ Spans text i [c] j := by
  rw [literal, matches_char_iff]
  simp only [CharSet.contains_single_iff, exists_eq_right]

/-- A character that stands for itself captures nothing. -/
lemma not_captures_literal {c : Char} {chars : Array Char} {k l : Nat} :
    ¬ (literal c).Captures chars i j k l :=
  id

/-- The start of a text is at its first place. -/
lemma matches_textStart_iff (hi : i ≤ text.length) :
    (Node.look .textStart).Matches text.toArray i j ↔ i = 0 ∧ j = 0 := by
  have hbefore : (charBefore text.toArray i).isNone = true ↔ i = 0 := by
    unfold charBefore
    by_cases h : i = 0
    · simp [h]
    · have hlt : i - 1 < text.length := by omega
      simp [h, hlt]
  simp only [Matches, Look.holds, hbefore]
  constructor
  · rintro ⟨rfl, rfl⟩
    exact ⟨rfl, rfl⟩
  · rintro ⟨rfl, rfl⟩
    exact ⟨rfl, rfl⟩

/-- The end of a text is where no character comes next. -/
lemma matches_textEnd_iff :
    (Node.look .textEnd).Matches text.toArray i j ↔ text[i]? = none ∧ i = j := by
  simp [Matches, Look.holds]

/-- A number of characters of a set match one after the other where so many of them stand. -/
lemma rounds_char_iff :
    Rounds ((Node.char s).Matches text.toArray) n i j ↔
      ∃ x, Spans text i x j ∧ x.length = n ∧ ∀ c ∈ x, s.contains c = true := by
  induction n generalizing i with
  | zero =>
    constructor
    · intro h
      exact ⟨[], spans_nil_iff.2 h, rfl, by simp⟩
    · rintro ⟨x, hx, hlength, -⟩
      obtain rfl := List.length_eq_zero_iff.1 hlength
      exact spans_nil_iff.1 hx
  | succ n ih =>
    simp only [Rounds, ih, matches_char_iff]
    constructor
    · rintro ⟨k, ⟨c, hc, hs⟩, x, hx, rfl, hall⟩
      exact ⟨c :: x, spans_cons_iff.2 ⟨k, hc, hx⟩, rfl, List.forall_mem_cons.2 ⟨hs, hall⟩⟩
    · rintro ⟨x, hx, hlength, hall⟩
      obtain ⟨c, x, rfl⟩ := List.exists_cons_of_length_eq_add_one hlength
      obtain ⟨k, hc, hx⟩ := spans_cons_iff.1 hx
      obtain ⟨hs, hall⟩ := List.forall_mem_cons.1 hall
      exact ⟨k, ⟨c, hc, hs⟩, x, hx, Nat.succ.inj hlength, hall⟩

/-- **A run of characters** matches every text that is long enough and has no others. -/
lemma matches_run_iff {low : Nat} :
    (Node.times (.char s) low none).Matches text.toArray i j ↔
      ∃ x, Spans text i x j ∧ low ≤ x.length ∧ ∀ c ∈ x, s.contains c = true := by
  show (∃ more, _ ∧ Rounds ((Node.char s).Matches text.toArray) (low + more) i j) ↔ _
  simp only [rounds_char_iff]
  constructor
  · rintro ⟨more, -, x, hx, hlength, hall⟩
    exact ⟨x, hx, by omega, hall⟩
  · rintro ⟨x, hx, hlow, hall⟩
    exact ⟨x.length - low, by simp, x, hx, by omega, hall⟩

/-- What may be missing is matched once or not at all. -/
lemma matches_optional_iff {a : Node} {chars : Array Char} :
    (Node.times a 0 (some 1)).Matches chars i j ↔ i = j ∨ a.Matches chars i j := by
  simp only [Matches]
  constructor
  · rintro ⟨more, hmore, h⟩
    have hle : more ≤ 1 := hmore 1 rfl
    interval_cases more
    · exact .inl h
    · exact .inr (rounds_one.1 h)
  · rintro (h | h)
    · exact ⟨0, by simp, h⟩
    · exact ⟨1, by simp, rounds_one.2 h⟩

end Node

end HttpStub.Regex
