import HttpStub.Text.Split
import Mathlib.Data.List.DropRight

set_option autoImplicit false

/-!
# Texts and what follows them

A text whose characters are all of one kind can be told from what follows it, if that starts with a
character of another kind.

## Main results

* `HttpStub.append_inj_of_forall` — a text of one kind of characters can be told from what follows.
* `HttpStub.append_inj_of_not_mem` — so can a text up to a separator.
* `HttpStub.Text.cut?_eq_some_iff` — what a text is cut into.
* `HttpStub.Text.pieces_eq_singleton_nil_iff` — only the empty text has an empty piece alone.
* `HttpStub.Text.pieces_intercalate` — the pieces of a text that was joined.
* `HttpStub.Text.pieces_map` — the pieces of a text whose characters were changed.
* `HttpStub.Text.occursIn_iff` — a text occurs in another one.
* `HttpStub.Text.exists_eq_trimEnd_append` — what is cut off at the end of a text.
-/

namespace HttpStub

variable {a b r s : List Char}

/-- **Texts of one kind of characters**, each followed by nothing or by another character, are equal
where the whole texts are. -/
lemma append_inj_of_forall {p : Char → Prop} (ha : ∀ c ∈ a, p c) (hb : ∀ c ∈ b, p c)
    (hr : ∀ c ∈ r.head?, ¬ p c) (hs : ∀ c ∈ s.head?, ¬ p c) (h : a ++ r = b ++ s) :
    a = b ∧ r = s := by
  induction a generalizing b with
  | nil =>
    cases b with
    | nil => exact ⟨rfl, h⟩
    | cons c b =>
      -- the text that ends first is followed by a character that cannot stand in the other one
      rw [List.nil_append] at h
      subst h
      exact absurd (hb c List.mem_cons_self) (hr c rfl)
  | cons c a ih =>
    cases b with
    | nil =>
      rw [List.nil_append] at h
      subst h
      exact absurd (ha c List.mem_cons_self) (hs c rfl)
    | cons d b =>
      simp only [List.cons_append, List.cons.injEq] at h
      obtain ⟨rfl, h⟩ := h
      obtain ⟨rfl, rfl⟩ := ih (List.forall_mem_cons.1 ha).2 (List.forall_mem_cons.1 hb).2 h
      exact ⟨rfl, rfl⟩

/-- Texts without the separator, each followed by nothing or by the separator, are equal where the
whole texts are. -/
lemma append_inj_of_not_mem {sep : Char} (ha : sep ∉ a) (hb : sep ∉ b)
    (hr : ∀ c ∈ r.head?, c = sep) (hs : ∀ c ∈ s.head?, c = sep) (h : a ++ r = b ++ s) :
    a = b ∧ r = s :=
  append_inj_of_forall (p := (· ≠ sep)) (fun _ hc => ne_of_mem_of_not_mem hc ha)
    (fun _ hc => ne_of_mem_of_not_mem hc hb) (fun c hc => not_not_intro (hr c hc))
    (fun c hc => not_not_intro (hs c hc)) h

namespace Text

variable {sep : Char} {before after : List Char}

/-- **A text is cut** at the first separator. -/
lemma cut?_eq_some_iff :
    cut? sep s = some (before, after) ↔ s = before ++ sep :: after ∧ sep ∉ before := by
  induction s generalizing before with
  | nil => simp [cut?]
  | cons c s ih =>
    rw [cut?]
    cases before with
    | nil =>
      split
      · next hc => simp [hc]
      · next hc => simp [hc]
    | cons d before =>
      split
      · next hc =>
        subst hc
        simp only [Option.some.injEq, Prod.mk.injEq, List.cons_append, List.cons.injEq,
          List.mem_cons, reduceCtorEq, false_and, false_iff]
        rintro ⟨⟨rfl, -⟩, hno⟩
        exact hno (.inl rfl)
      · next hc =>
        simp only [Option.map_eq_some_iff, Prod.exists, Prod.mk.injEq, List.cons.injEq,
          List.cons_append, List.mem_cons, not_or]
        constructor
        · rintro ⟨x, y, hxy, ⟨rfl, rfl⟩, rfl⟩
          obtain ⟨rfl, hx⟩ := ih.1 hxy
          exact ⟨⟨rfl, rfl⟩, Ne.symm hc, hx⟩
        · rintro ⟨⟨rfl, rfl⟩, -, hno⟩
          exact ⟨before, after, ih.2 ⟨rfl, hno⟩, ⟨rfl, rfl⟩, rfl⟩

/-- Only the empty text has an empty piece and no other one. -/
lemma pieces_eq_singleton_nil_iff {p : Char → Bool} : pieces p s = [[]] ↔ s = [] := by
  cases s with
  | nil => simp [pieces]
  | cons c s =>
    have hne := pieces_ne_nil p s
    rw [pieces]
    by_cases hc : p c = true
    · simp [hc, hne]
    · obtain ⟨q, qs, hpieces⟩ := List.exists_cons_of_ne_nil hne
      simp [hc, hpieces]

/-- A text without separators is one piece. -/
lemma pieces_of_forall {p : Char → Bool} (ha : ∀ c ∈ a, p c = false) : pieces p a = [a] := by
  induction a with
  | nil => rfl
  | cons c a ih =>
    obtain ⟨hc, ha⟩ := List.forall_mem_cons.1 ha
    simp [pieces, hc, ih ha]

/-- A piece ends at the first separator. -/
lemma pieces_append {p : Char → Bool} (ha : ∀ c ∈ a, p c = false) (hsep : p sep = true) :
    pieces p (a ++ sep :: s) = a :: pieces p s := by
  induction a with
  | nil => simp [pieces, hsep]
  | cons c a ih =>
    obtain ⟨hc, ha⟩ := List.forall_mem_cons.1 ha
    simp [pieces, hc, ih ha]

/-- **Texts that are joined by a separator** are the pieces of the whole, if none of them holds the
separator. -/
lemma pieces_intercalate {ps : List (List Char)} (hne : ps ≠ []) (h : ∀ p ∈ ps, sep ∉ p) :
    pieces (· == sep) ([sep].intercalate ps) = ps := by
  have hfree : ∀ p ∈ ps, ∀ c ∈ p, (c == sep) = false := by
    intro p hp c hc
    exact beq_false_of_ne (ne_of_mem_of_not_mem hc (h p hp))
  clear h
  induction ps with
  | nil => exact absurd rfl hne
  | cons p ps ih =>
    obtain ⟨hp, hps⟩ := List.forall_mem_cons.1 hfree
    cases ps with
    | nil => rw [List.intercalate_singleton, pieces_of_forall hp]
    | cons q ps =>
      rw [List.intercalate_cons_cons, List.append_assoc, List.singleton_append,
        pieces_append hp (by simp), ih (by simp) hps]

/-- No piece holds a separator. -/
lemma forall_of_mem_pieces {p : Char → Bool} : ∀ piece ∈ pieces p s, ∀ c ∈ piece, p c = false := by
  induction s with
  | nil => simp [pieces]
  | cons c s ih =>
    obtain ⟨q, qs, hpieces⟩ := List.exists_cons_of_ne_nil (pieces_ne_nil p s)
    rw [hpieces] at ih
    obtain ⟨hq, hqs⟩ := List.forall_mem_cons.1 ih
    rw [pieces, hpieces]
    by_cases hc : p c = true
    · rw [if_pos hc]
      exact List.forall_mem_cons.2 ⟨fun d hd => absurd hd List.not_mem_nil, ih⟩
    · rw [if_neg hc]
      have hhead : ∀ d ∈ c :: q, p d = false :=
        List.forall_mem_cons.2 ⟨Bool.eq_false_iff.2 hc, hq⟩
      exact List.forall_mem_cons.2 ⟨hhead, hqs⟩

/-- **The pieces of a changed text** are the changed pieces, if separators stay what they are and
nothing else becomes one. -/
lemma pieces_map {p : Char → Bool} {f : Char → Char} (hf : ∀ c, p (f c) = p c) (s : List Char) :
    pieces p (s.map f) = (pieces p s).map (List.map f) := by
  induction s with
  | nil => rfl
  | cons c s ih =>
    obtain ⟨q, qs, hpieces⟩ := List.exists_cons_of_ne_nil (pieces_ne_nil p s)
    rw [List.map_cons, pieces, pieces, ih, hpieces, hf]
    by_cases hc : p c = true
    · rw [if_pos hc, if_pos hc]
      rfl
    · rw [if_neg hc, if_neg hc]
      rfl

/-- **A text occurs** in another one where that can be split around it. -/
lemma occursIn_iff {needle text : String} :
    occursIn needle text = true ↔ needle.toList <:+: text.toList := by
  have hinfix : ∀ cs, isInfix needle.toList cs = true ↔ needle.toList <:+: cs := by
    intro cs
    induction cs with
    | nil => rw [isInfix, List.isEmpty_iff, List.infix_nil]
    | cons c cs ih =>
      rw [isInfix, Bool.or_eq_true, List.isPrefixOf_iff_prefix, ih, List.infix_cons_iff]
  exact hinfix text.toList

/-! ## Ends that are cut off -/

section TrimEnd

variable {p : Char → Bool}

/-- The characters of a trimmed text. -/
lemma toList_trimEnd (p : Char → Bool) (s : String) :
    (trimEnd p s).toList = s.toList.rdropWhile p :=
  String.toList_ofList

/-- **A text is what is left of it**, with characters of one kind behind. -/
lemma exists_eq_trimEnd_append (p : Char → Bool) (s : String) :
    ∃ rest, s = trimEnd p s ++ rest ∧ ∀ c ∈ rest.toList, p c = true := by
  refine ⟨String.ofList (s.toList.rtakeWhile p), ?_, ?_⟩
  · rw [← String.toList_inj, String.toList_append, toList_trimEnd, String.toList_ofList,
      List.rdropWhile_append_rtakeWhile]
  · intro c hc
    rw [String.toList_ofList] at hc
    exact List.mem_rtakeWhile_imp hc

/-- What is left does not end in a character of that kind. -/
lemma not_of_mem_getLast?_trimEnd {s : String} :
    ∀ c ∈ (trimEnd p s).toList.getLast?, ¬ p c = true := by
  intro c hc
  rw [toList_trimEnd] at hc
  obtain ⟨hne, rfl⟩ := List.mem_getLast?_eq_getLast hc
  exact List.rdropWhile_last_not _ _ hne

/-- Nothing more is cut off a second time. -/
lemma trimEnd_trimEnd (p : Char → Bool) (s : String) : trimEnd p (trimEnd p s) = trimEnd p s := by
  rw [← String.toList_inj, toList_trimEnd, toList_trimEnd, List.rdropWhile_idempotent]

/-- Nothing is left exactly if all of the text is cut off. -/
lemma trimEnd_eq_empty_iff {s : String} : trimEnd p s = "" ↔ ∀ c ∈ s.toList, p c = true := by
  rw [← String.toList_inj, toList_trimEnd, String.toList_empty, List.rdropWhile_eq_nil_iff]

end TrimEnd

end Text

end HttpStub
