import HttpStub.Exchange.Filter
import HttpStub.Proofs.Regex.Capture
import Mathlib.Data.List.Permutation

set_option autoImplicit false

/-!
# Filters that exclude targets

A pattern of the form `((?!X).)*` looks ahead, so it is no regular expression; it is read as the
condition that `X` is not found. What `X` is does not depend on what it holds: it is all that stands
between the fixed start of the pattern and its fixed end.

## Main definitions

* `HttpStub.lookaheadPattern` — the expression that recognises patterns of this form.
* `HttpStub.Captured` — what its group captures in a pattern.
* `HttpStub.Excludes` — the patterns of this form, with and without their first parenthesis.

## Main results

* `HttpStub.excludedPart?_eq_some_iff` — the text that a pattern excludes.
* `HttpStub.captured_iff` — it is what the expression captures.
* `HttpStub.Excludes.compile?_eq_none` — these patterns are no regular expressions.
* `HttpStub.UrlFilter.accepts_of_excludes` — the targets that they accept.
-/

namespace HttpStub

open Regex (Node CharSet Spans spans_cons_iff spans_append_iff spans_all_iff)

/-! ## Fixed starts and ends -/

/-- What comes after a fixed start, if the text has this start. -/
lemma afterStart?_eq_some_iff {start s rest : List Char} :
    afterStart? start s = some rest ↔ s = start ++ rest := by
  rw [afterStart?, Option.ite_none_right_eq_some, List.isPrefixOf_iff_prefix, Option.some.injEq]
  constructor
  · rintro ⟨⟨t, rfl⟩, rfl⟩
    rw [List.drop_left]
  · rintro rfl
    exact ⟨List.prefix_append _ _, List.drop_left⟩

/-- What comes in front of a fixed end, if the text has this end. -/
lemma beforeEnd?_eq_some_iff {stop s front : List Char} :
    beforeEnd? stop s = some front ↔ s = front ++ stop := by
  rw [beforeEnd?, Option.map_eq_some_iff]
  constructor
  · rintro ⟨t, ht, rfl⟩
    rw [← List.reverse_reverse s, afterStart?_eq_some_iff.1 ht, List.reverse_append,
      List.reverse_reverse]
  · rintro rfl
    exact ⟨front.reverse, afterStart?_eq_some_iff.2 List.reverse_append, List.reverse_reverse _⟩

/-! ## The part that is excluded -/

section Part

variable {p x : List Char}

/-- What follows the start of a pattern leads to the text in front of its end. -/
lemma excludedPart?_of_start {tail : List Char}
    (h : p = '(' :: '(' :: '?' :: '!' :: tail ∨ p = '(' :: '?' :: '!' :: tail) :
    excludedPart? p = some x ↔ tail = x ++ ").)*".toList ∧ x ≠ [] ∧ '\n' ∉ x := by
  have hpart : excludedPart? p = (beforeEnd? ").)*".toList tail).bind fun x =>
      if x.isEmpty || x.contains '\n' then none else some x := by
    rcases h with rfl | rfl <;> rfl
  simp only [hpart, Option.bind_eq_some_iff, beforeEnd?_eq_some_iff, Option.ite_none_left_eq_some,
    Option.some.injEq]
  constructor
  · rintro ⟨y, htail, hy, rfl⟩
    exact ⟨htail, by simpa using hy⟩
  · rintro ⟨rfl, hx⟩
    exact ⟨x, rfl, by simpa using hx, rfl⟩

/-- A pattern that has such a part starts as it should. -/
lemma exists_start_of_excludedPart? (h : excludedPart? p = some x) :
    ∃ tail, p = '(' :: '(' :: '?' :: '!' :: tail ∨ p = '(' :: '?' :: '!' :: tail := by
  unfold excludedPart? at h
  dsimp only at h
  split at h
  · next tail htail =>
    refine ⟨tail, ?_⟩
    rw [afterStart?_eq_some_iff] at htail
    cases hp : afterStart? ['('] p with
    | none =>
      rw [hp] at htail
      exact .inr htail
    | some rest =>
      rw [hp] at htail
      rw [afterStart?_eq_some_iff] at hp
      exact .inl (hp.trans (congrArg _ htail))
  · obtain ⟨tail, htail, -⟩ := Option.bind_eq_some_iff.1 h
    exact ⟨tail, .inr (afterStart?_eq_some_iff.1 htail)⟩

/-- **The text that a pattern excludes** is whatever stands between its start and its end. -/
lemma excludedPart?_eq_some_iff :
    excludedPart? p = some x ↔
      (p = '(' :: '(' :: '?' :: '!' :: (x ++ ").)*".toList) ∨
        p = '(' :: '?' :: '!' :: (x ++ ").)*".toList)) ∧ x ≠ [] ∧ '\n' ∉ x := by
  constructor
  · intro h
    obtain ⟨tail, hp⟩ := exists_start_of_excludedPart? h
    obtain ⟨rfl, hx⟩ := (excludedPart?_of_start hp).1 h
    exact ⟨hp, hx⟩
  · rintro ⟨hp, hx⟩
    exact (excludedPart?_of_start hp).2 ⟨rfl, hx⟩

/-! ## The expression for this form -/

/-- The expression that patterns of this form match; its group captures what they exclude. -/
def lookaheadPattern : String :=
  "^\\(?(?:\\(\\?!(.+?)\\)\\.)\\)\\*$"

/-- The expression as it is read. -/
def lookaheadNode : Node :=
  .seq (.look .textStart) (.seq (.times (.literal '(') 0 (some 1))
    (.seq
      (.seq (.literal '(') (.seq (.literal '?') (.seq (.literal '!')
        (.seq (.group (.times (.char (.not (.single .exact '\n'))) 1 none))
          (.seq (.literal ')') (.literal '.'))))))
      (.seq (.literal ')') (.seq (.literal '*') (.look .textEnd)))))

/-- The expression that recognises these patterns is read as `lookaheadNode`. -/
lemma parse?_lookaheadPattern : Regex.parse? lookaheadPattern = some lookaheadNode := by
  rfl

/-- In some match of the expression with the pattern, its group captures the text. -/
def Captured (pattern x : List Char) : Prop :=
  ∃ n, Regex.parse? lookaheadPattern = some n ∧
    ∃ i j k l, i ≤ pattern.length ∧ n.Captures pattern.toArray i j k l ∧ Spans pattern k x l

/-- **What the group of the expression captures**: between the fixed start, with or without its
first parenthesis, and the fixed end. -/
lemma captures_lookaheadNode_iff {i j k l : Nat} (hi : i ≤ p.length) :
    lookaheadNode.Captures p.toArray i j k l ↔
      i = 0 ∧ ∃ m, (0 = m ∨ Spans p 0 ['('] m) ∧ Spans p m ['(', '?', '!'] k ∧
        (∃ x, Spans p k x l ∧ x ≠ [] ∧ '\n' ∉ x) ∧
          Spans p l [')', '.', ')', '*'] j ∧ p[j]? = none := by
  have hline : ∀ c, (CharSet.not (.single .exact '\n')).contains c = true ↔ c ≠ '\n' := by
    intro c
    rw [CharSet.contains, Bool.not_eq_true', ← Bool.not_eq_true, CharSet.contains_single_iff]
  have hrun : ∀ x : List Char, (1 ≤ x.length ∧ ∀ c ∈ x, c ≠ '\n') ↔ x ≠ [] ∧ '\n' ∉ x := by
    intro x
    rw [Nat.one_le_iff_ne_zero, List.length_eq_zero_iff.ne, List.forall_mem_ne']
  simp only [lookaheadNode, Node.Captures, Node.not_captures_literal, false_and, and_false,
    or_false, false_or, exists_false, Node.matches_textStart_iff hi, Node.matches_optional_iff,
    Node.matches_literal_iff, Node.matches_run_iff, Node.matches_seq_iff,
    Node.matches_textEnd_iff, hline, hrun]
  constructor
  · rintro ⟨_, ⟨rfl, rfl⟩, m, hm, n, ⟨a, ha, b, hb, c, hc, d, ⟨hx, rfl, rfl⟩, e, he, hn⟩,
      f, hf, g, hg, hend, rfl⟩
    have hstart := spans_cons_iff.2 ⟨a, ha, spans_cons_iff.2 ⟨b, hb, hc⟩⟩
    have hstop := spans_cons_iff.2 ⟨e, he, spans_cons_iff.2 ⟨n, hn, spans_cons_iff.2 ⟨f, hf, hg⟩⟩⟩
    exact ⟨rfl, m, hm, hstart, hx, hstop, hend⟩
  · rintro ⟨rfl, m, hm, hstart, hx, hstop, hend⟩
    obtain ⟨a, ha, hstart⟩ := spans_cons_iff.1 hstart
    obtain ⟨b, hb, hc⟩ := spans_cons_iff.1 hstart
    obtain ⟨e, he, hstop⟩ := spans_cons_iff.1 hstop
    obtain ⟨n, hn, hstop⟩ := spans_cons_iff.1 hstop
    obtain ⟨f, hf, hg⟩ := spans_cons_iff.1 hstop
    exact ⟨0, ⟨rfl, rfl⟩, m, hm, n, ⟨a, ha, b, hb, k, hc, l, ⟨hx, rfl, rfl⟩, e, he, hn⟩,
      f, hf, j, hg, hend, rfl⟩

/-- **The expression captures** what the pattern excludes, whatever that holds. Its run of
characters can only end where the fixed end of the pattern starts, so it does not matter that it is
as short as possible. -/
lemma captured_iff : Captured p x ↔ excludedPart? p = some x := by
  rw [excludedPart?_eq_some_iff]
  constructor
  · rintro ⟨n, hn, i, j, k, l, hi, hcaptures, hx⟩
    obtain rfl := Option.some.inj (parse?_lookaheadPattern.symm.trans hn)
    obtain ⟨rfl, m, hm, hstart, ⟨y, hy, hne, hline⟩, hstop, hend⟩ :=
      (captures_lookaheadNode_iff hi).1 hcaptures
    obtain rfl := hx.unique hy
    have hrest := spans_append_iff.2 ⟨k, hstart, spans_append_iff.2 ⟨l, hx, hstop⟩⟩
    refine ⟨?_, hne, hline⟩
    rcases hm with rfl | hm
    · exact .inr (spans_all_iff.1 ⟨hrest, hend⟩).1
    · exact .inl (spans_all_iff.1 ⟨spans_append_iff.2 ⟨m, hm, hrest⟩, hend⟩).1
  · rintro ⟨hp, hne, hline⟩
    have hend : p[p.length]? = none := by simp
    have hrest : ∃ m, (0 = m ∨ Spans p 0 ['('] m) ∧
        Spans p m (['(', '?', '!'] ++ (x ++ ").)*".toList)) p.length := by
      rcases hp with hp | hp
      · obtain ⟨m, hm, hrest⟩ := spans_cons_iff.1 (spans_all_iff.2 ⟨hp, rfl⟩).1
        exact ⟨m, .inr hm, hrest⟩
      · exact ⟨0, .inl rfl, (spans_all_iff.2 ⟨hp, rfl⟩).1⟩
    obtain ⟨m, hm, hrest⟩ := hrest
    obtain ⟨k, hstart, hrest⟩ := spans_append_iff.1 hrest
    obtain ⟨l, hx, hstop⟩ := spans_append_iff.1 hrest
    have hcaptures := (captures_lookaheadNode_iff (Nat.zero_le _)).2
      ⟨rfl, m, hm, hstart, ⟨x, hx, hne, hline⟩, hstop, hend⟩
    exact ⟨lookaheadNode, parse?_lookaheadPattern, 0, p.length, k, l, Nat.zero_le _, hcaptures, hx⟩

end Part

/-! ## Patterns of this form -/

/-- The pattern states that the text `x` is not found; its first parenthesis may be missing. -/
def Excludes (pattern x : String) : Prop :=
  pattern = "((?!" ++ x ++ ").)*" ∨ pattern = "(?!" ++ x ++ ").)*"

namespace Excludes

variable {pattern x : String}

/-- The patterns of this form by their characters. -/
lemma iff_toList :
    Excludes pattern x ↔ pattern.toList = '(' :: '(' :: '?' :: '!' :: (x.toList ++ ").)*".toList) ∨
      pattern.toList = '(' :: '?' :: '!' :: (x.toList ++ ").)*".toList) := by
  simp only [Excludes, ← String.toList_inj, String.toList_append, List.append_assoc]
  rfl

/-- **A pattern of this form is no regular expression**, since it looks ahead. -/
lemma compile?_eq_none (h : Excludes pattern x) : Regex.compile? pattern = none := by
  have hparse : Regex.parse? pattern = none := by
    rw [Regex.parse?]
    rcases iff_toList.1 h with h | h <;> rw [h] <;> rfl
  rw [Regex.compile?, hparse]
  rfl

/-- A pattern of this form excludes the text in its middle, if that is a single line of at least one
character. -/
lemma excludedPart?_eq (h : Excludes pattern x) (hne : x ≠ "") (hline : '\n' ∉ x.toList) :
    excludedPart? pattern.toList = some x.toList :=
  excludedPart?_eq_some_iff.2 ⟨iff_toList.1 h, String.toList_eq_nil_iff.ne.2 hne, hline⟩

end Excludes

namespace UrlFilter

variable {pattern x : String}

/-- The condition that such a pattern states. -/
lemma ofPattern_of_excludes (h : Excludes pattern x) (hne : x ≠ "") (hline : '\n' ∉ x.toList) :
    ofPattern pattern = (Regex.compile? x).elim .any .notContaining := by
  rw [ofPattern, h.compile?_eq_none, h.excludedPart?_eq hne hline, Option.bind_some,
    String.ofList_toList]
  cases Regex.compile? x <;> rfl

/-- **A filter that excludes a text** accepts the targets in which the text, taken whole, matches
nothing; and it accepts every target if the text is no regular expression. The text is the only one
that the expression for such patterns captures.

**Proof sketch.** The pattern looks ahead, so it is refused as an expression. Its start and its end
are fixed, so what it excludes is all that stands between them. The search for a match is exact. -/
theorem accepts_of_excludes (h : Excludes pattern x) (hne : x ≠ "") (hline : '\n' ∉ x.toList) :
    (∀ y, Captured pattern.toList y ↔ y = x.toList) ∧
    (∀ r, Regex.compile? x = some r → ∀ target,
      (ofPattern pattern).accepts target = true ↔ ¬ r.node.OccursIn target) ∧
    (Regex.compile? x = none → ∀ target, (ofPattern pattern).accepts target = true) := by
  refine ⟨fun y => ?_, ?_⟩
  · rw [captured_iff, h.excludedPart?_eq hne hline, Option.some.injEq, eq_comm]
  · rw [ofPattern_of_excludes h hne hline]
    refine ⟨fun r hr target => ?_, fun hx target => ?_⟩
    · rw [hr, ← Regex.Node.isFoundIn_iff]
      exact Bool.not_iff_not
    · rw [hx]
      rfl

/-- The end of a pattern may occur in the text that it excludes: here it is a class of characters,
one of which is found. -/
theorem accepts_of_excludes_class :
    Excludes "((?![).)*]).)*" "[).)*]" ∧ "[).)*]" ≠ "" ∧ '\n' ∉ "[).)*]".toList ∧
      ∃ r, Regex.compile? "[).)*]" = some r ∧ r.node.OccursIn "/a*" ∧
        (ofPattern "((?![).)*]).)*").accepts "/a*" = false := by
  have hform : Excludes "((?![).)*]).)*" "[).)*]" := .inl rfl
  have hfound : (Regex.compile? "[).)*]").any (·.node.isFoundIn "/a*") = true := by cbv
  obtain ⟨r, hr, hoccurs⟩ := (Option.any_eq_true _ _).1 hfound
  rw [Regex.Node.isFoundIn_iff] at hoccurs
  obtain ⟨-, haccepts, -⟩ := accepts_of_excludes hform (by decide) (by decide)
  have hrefused := (haccepts r hr "/a*").not.2 (not_not_intro hoccurs)
  exact ⟨hform, by decide, by decide, r, hr, hoccurs, Bool.not_eq_true _ ▸ hrefused⟩

end UrlFilter

end HttpStub
