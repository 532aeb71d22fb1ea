import HttpStub.Proofs.Http.Header
import HttpStub.Proofs.Text.Split

set_option autoImplicit false

/-!
# One spelling for each header name

Exported stubs spell every header name in one way, whatever the case of the letters in which it has
been recorded. The spelling can be told without the function that makes it: of all texts that are
the name up to letter case, there is exactly one whose parts between dashes are spelled as they
should be.

## Main definitions

* `HttpStub.IsTitlePart`, `HttpStub.IsTitleSpelled` — parts and names in the spelling of exported
  stubs.

## Main results

* `HttpStub.titleCase_eq_of_sameText` — names that are the same in any letter case share a spelling.
* `HttpStub.titleCase_eq_self_iff` — the names that stay as they are.
* `HttpStub.eq_titleCase_iff` — which text is the spelling of a name.
* `HttpStub.titleCase_unique_spelling` — the spelling changes the case of letters only, all variants
  of a name in letter case share it, no other name has it, and it is final.

## Design

A name may start or end in a dash, and two dashes may follow each other; the parts there are empty
and stay so. Characters outside ASCII have no letter case here.
-/

namespace HttpStub

/-- A part of a header name as exported stubs spell it: an abbreviation in capitals; or, where it is
no abbreviation in any letter case, a text without a small letter in front and without capitals
after that. -/
def IsTitlePart (cs : List Char) : Prop :=
  cs ∈ abbreviations ∨
    cs.map Char.toUpper ∉ abbreviations ∧
      cs.head?.all (fun c => !c.isLower) = true ∧ cs.tail.all (fun c => !c.isUpper) = true

instance (cs : List Char) : Decidable (IsTitlePart cs) :=
  inferInstanceAs (Decidable (_ ∨ _ ∧ _ ∧ _))

/-- A header name as exported stubs spell it. -/
def IsTitleSpelled (name : String) : Prop :=
  ∀ part ∈ Text.pieces (· == '-') name.toList, IsTitlePart part

instance (name : String) : Decidable (IsTitleSpelled name) :=
  inferInstanceAs (Decidable (∀ part ∈ Text.pieces (· == '-') name.toList, IsTitlePart part))

variable {a b name : String} {cs : List Char}

/-! ## Parts -/

/-- An abbreviation is spelled in capitals. -/
lemma titleSegment_of_mem (h : cs.map Char.toUpper ∈ abbreviations) :
    titleSegment cs = cs.map Char.toUpper :=
  if_pos (List.contains_iff_mem.2 h)

/-- Another part is spelled with a capital in front and small letters after it. -/
lemma titleSegment_cons {c : Char} (h : (c :: cs).map Char.toUpper ∉ abbreviations) :
    titleSegment (c :: cs) = c.toUpper :: cs.map Char.toLower :=
  if_neg fun hmem => h (List.contains_iff_mem.1 hmem)

/-- The spelling of a part does not depend on the case of its letters. -/
lemma titleSegment_map_toLower (cs : List Char) :
    titleSegment (cs.map Char.toLower) = titleSegment cs := by
  have hupper : (cs.map Char.toLower).map Char.toUpper = cs.map Char.toUpper := by
    rw [List.map_map]
    exact List.map_congr_left fun c _ => Char.toUpper_toLower_eq_toUpper c
  by_cases habbr : cs.map Char.toUpper ∈ abbreviations
  · rw [titleSegment_of_mem habbr, titleSegment_of_mem (by rwa [hupper]), hupper]
  · have habbr' : (cs.map Char.toLower).map Char.toUpper ∉ abbreviations := by rwa [hupper]
    cases cs with
    | nil => rfl
    | cons c cs =>
      rw [List.map_cons] at habbr' ⊢
      rw [titleSegment_cons habbr, titleSegment_cons habbr', Ascii.map_toLower_toLower,
        Char.toUpper_toLower_eq_toUpper]

/-- The characters that a change to capitals leaves as they are. -/
lemma toUpper_eq_self_iff {c : Char} : c.toUpper = c ↔ c.isLower = false := by
  constructor
  · intro h
    rw [← h, Char.isLower_toUpper_eq_false]
  · intro h
    exact Char.toUpper_eq_of_not_isLower (Bool.eq_false_iff.1 h)

/-- The characters that a change to small letters leaves as they are. -/
lemma toLower_eq_self_iff {c : Char} : c.toLower = c ↔ c.isUpper = false := by
  constructor
  · intro h
    rw [← h, Char.isUpper_toLower_eq_false]
  · intro h
    exact Char.toLower_eq_of_not_isUpper (Bool.eq_false_iff.1 h)

/-- A list stays as it is under a map exactly if its members do. -/
lemma map_eq_self_iff {α : Type} {f : α → α} {xs : List α} :
    xs.map f = xs ↔ ∀ x ∈ xs, f x = x := by
  have hid : xs.map f = xs.map id ↔ ∀ x ∈ xs, f x = id x := List.map_eq_map_iff
  rwa [List.map_id] at hid

/-- The texts that a change to small letters leaves as they are. -/
lemma map_toLower_eq_self_iff : cs.map Char.toLower = cs ↔ cs.all (fun c => !c.isUpper) = true := by
  simp only [map_eq_self_iff, toLower_eq_self_iff, List.all_eq_true, Bool.not_eq_true']

/-- The abbreviations are in capitals. -/
lemma map_toUpper_of_mem_abbreviations (h : cs ∈ abbreviations) : cs.map Char.toUpper = cs := by
  have hall : ∀ abbreviation ∈ abbreviations, abbreviation.map Char.toUpper = abbreviation := by
    decide
  exact hall cs h

/-- **The parts that stay as they are** are those that are spelled as in exported stubs. -/
lemma titleSegment_eq_self_iff : titleSegment cs = cs ↔ IsTitlePart cs := by
  by_cases habbr : cs.map Char.toUpper ∈ abbreviations
  · rw [titleSegment_of_mem habbr, IsTitlePart]
    constructor
    · intro hcapitals
      rw [hcapitals] at habbr
      exact .inl habbr
    · rintro (hmem | ⟨hno, -⟩)
      · exact map_toUpper_of_mem_abbreviations hmem
      · exact absurd habbr hno
  · -- the other way to be spelled as it should, as an abbreviation in capitals, is out
    have hmem : cs ∉ abbreviations := by
      intro hmem
      rw [map_toUpper_of_mem_abbreviations hmem] at habbr
      exact habbr hmem
    rw [IsTitlePart, or_iff_right hmem, and_iff_right habbr]
    cases cs with
    | nil => exact iff_of_true rfl ⟨rfl, rfl⟩
    | cons c cs =>
      rw [titleSegment_cons habbr, List.cons.injEq, toUpper_eq_self_iff, map_toLower_eq_self_iff,
        List.head?_cons, Option.all_some, Bool.not_eq_true', List.tail_cons]

/-! ## Names -/

/-- A dash is a dash in either letter case, and no letter becomes one. -/
lemma toLower_beq_dash (c : Char) : (c.toLower == '-') = (c == '-') := by
  by_cases hc : c.isUpper = true
  · -- a letter is no dash in either case
    have hlower : c.toLower.isLower = true := by
      rw [Char.isLower_toLower_eq_isAlpha, Char.isAlpha, hc, Bool.true_or]
    have hne : c ≠ '-' := by
      rintro rfl
      exact absurd hc (by decide)
    have hne' : c.toLower ≠ '-' := by
      intro h
      rw [h] at hlower
      exact absurd hlower (by decide)
    rw [beq_false_of_ne hne, beq_false_of_ne hne']
  · rw [Char.toLower_eq_of_not_isUpper hc]

/-- The spelling of a name does not depend on the case of its letters. -/
lemma titleCase_lower (name : String) : titleCase (Ascii.lower name) = titleCase name := by
  have hsegments : titleSegment ∘ List.map Char.toLower = titleSegment :=
    funext titleSegment_map_toLower
  rw [titleCase, Ascii.toList_lower, Text.pieces_map toLower_beq_dash, List.map_map, hsegments,
    titleCase]

/-- **Names that are the same in any letter case** share a spelling. -/
lemma titleCase_eq_of_sameText (h : Ascii.sameText a b = true) : titleCase a = titleCase b := by
  rw [← titleCase_lower a, Ascii.sameText_iff.1 h, titleCase_lower]

/-- Parts are joined with a dash between any two of them. -/
lemma dashJoin_eq_intercalate (ps : List (List Char)) : dashJoin ps = ['-'].intercalate ps := by
  induction ps with
  | nil => rfl
  | cons p ps ih =>
    cases ps with
    | nil => exact List.intercalate_singleton.symm
    | cons q ps =>
      have hjoin : dashJoin (p :: q :: ps) = p ++ '-' :: dashJoin (q :: ps) := rfl
      rw [hjoin, ih, List.intercalate_cons_cons, List.append_assoc, List.singleton_append]

/-- A part without dashes gets none. -/
lemma not_mem_titleSegment (h : ∀ c ∈ cs, (c == '-') = false) : '-' ∉ titleSegment cs := by
  intro hmem
  have hlower : '-' ∈ cs.map Char.toLower := by
    rw [← map_toLower_titleSegment]
    exact List.mem_map.2 ⟨'-', hmem, rfl⟩
  obtain ⟨c, hc, hdash⟩ := List.mem_map.1 hlower
  have hno := h c hc
  rw [← toLower_beq_dash, hdash] at hno
  exact absurd hno (by decide)

/-- The parts of the spelling are the spellings of the parts. -/
lemma pieces_titleCase (name : String) :
    Text.pieces (· == '-') (titleCase name).toList =
      (Text.pieces (· == '-') name.toList).map titleSegment := by
  rw [titleCase, String.toList_ofList, dashJoin_eq_intercalate]
  -- a dash in a part would cut it once more
  refine Text.pieces_intercalate ?_ ?_
  · rw [Ne, List.map_eq_nil_iff]
    exact Text.pieces_ne_nil _ _
  · intro part hpart
    obtain ⟨cs, hcs, rfl⟩ := List.mem_map.1 hpart
    exact not_mem_titleSegment (Text.forall_of_mem_pieces cs hcs)

/-- **The names that stay as they are** are those that are spelled as in exported stubs. -/
lemma titleCase_eq_self_iff : titleCase name = name ↔ IsTitleSpelled name := by
  have hparts : titleCase name = name ↔
      (Text.pieces (· == '-') name.toList).map titleSegment =
        Text.pieces (· == '-') name.toList := by
    constructor
    · intro hfixed
      rw [← pieces_titleCase, hfixed]
    · intro hfixed
      rw [titleCase, hfixed, dashJoin_pieces, String.ofList_toList]
  rw [hparts, map_eq_self_iff]
  exact forall₂_congr fun part _ => titleSegment_eq_self_iff

/-- The abbreviation has to be in capitals. -/
example : IsTitleSpelled "X-Request-ID" ∧ ¬ IsTitleSpelled "X-Request-Id" := by decide

/-- **The spelling of a name** is the one text that is spelled as in exported stubs and is the same
as the name up to letter case. -/
lemma eq_titleCase_iff : b = titleCase a ↔ IsTitleSpelled b ∧ Ascii.sameText b a = true := by
  constructor
  · rintro rfl
    have hsame : Ascii.sameText (titleCase a) a = true := by
      rw [sameText_titleCase, Ascii.sameText_self]
    exact ⟨titleCase_eq_self_iff.1 (titleCase_eq_of_sameText hsame), hsame⟩
  · rintro ⟨hspelled, hsame⟩
    calc b = titleCase b := (titleCase_eq_self_iff.2 hspelled).symm
      _ = titleCase a := titleCase_eq_of_sameText hsame

/-- **One spelling for each header.** The spelling of exported stubs changes a name in the case of
letters only; two names get the same one exactly if they are the same in any letter case; and it is
final. It is told by its form: of the texts that are the name up to letter case, it is the one whose
parts are abbreviations in capitals, or have no small letter in front and no capitals after that.

**Proof sketch.** The parts between dashes do not depend on letter case, and neither does the
spelling of a part, so the whole spelling does not. A part stays as it is exactly if it has the form,
and no part gets a dash, so a name that has the form is its own spelling. -/
theorem titleCase_unique_spelling (a b : String) :
    Ascii.sameText (titleCase a) a = true ∧
      (titleCase a = titleCase b ↔ Ascii.sameText a b = true) ∧
      titleCase (titleCase a) = titleCase a ∧
      (b = titleCase a ↔ IsTitleSpelled b ∧ Ascii.sameText b a = true) := by
  obtain ⟨hspelled, hsame⟩ := eq_titleCase_iff.1 (rfl : titleCase a = titleCase a)
  refine ⟨hsame, ?_, titleCase_eq_self_iff.2 hspelled, eq_titleCase_iff⟩
  constructor
  · intro heq
    rw [Ascii.sameText_iff, ← lower_titleCase a, heq, lower_titleCase]
  · intro hab
    exact titleCase_eq_of_sameText hab

/-- Empty parts stay, a letter outside ASCII stands for the capital, and only a whole part is an
abbreviation. -/
example : titleCase "-éTag--uRi-XSs2-" = "-étag--URI-Xss2-" := by decide

end HttpStub
