import HttpStub.Http.Header
import Mathlib

set_option autoImplicit false

/-!
# Names of headers in any letter case

Whether a name is legal and whether a header is passed on does not depend on the case of letters,
and the spelling of exported stubs changes nothing but the case of letters.

## Main definitions

* `HttpStub.IsInternalName` — the names of headers that are never passed on.
* `HttpStub.isLegalField` — a header that HTTP can carry.

## Main results

* `HttpStub.lower_titleCase` — the spelling of exported stubs differs in the case of letters only.
* `HttpStub.isFieldName_titleCase` — it keeps legal names legal.
* `HttpStub.isInternal_iff`, `HttpStub.isSnapshotExcluded_iff` — the names that are not passed on.
* `HttpStub.Headers.entries_foldl_append?` — of the headers that are added, the legal ones are kept.

## Implementation notes

The laws of letter case of single characters, such as `Char.toLower_toUpper_eq_toLower`, come with
the library as a whole; none of its modules brings them in alone.
-/

namespace HttpStub

/-! ## Letter case -/

namespace Ascii

variable {a b c : String}

/-- Small letters are taken character by character. -/
lemma toList_lower (s : String) : (lower s).toList = s.toList.map Char.toLower :=
  String.toList_ofList

/-- Small letters stay as they are. -/
lemma map_toLower_toLower (cs : List Char) :
    (cs.map Char.toLower).map Char.toLower = cs.map Char.toLower := by
  rw [List.map_map]
  exact List.map_congr_left fun c _ => Char.toLower_toLower_eq_toLower c

/-- A text in small letters stays as it is. -/
lemma lower_lower (s : String) : lower (lower s) = lower s := by
  rw [lower, toList_lower, map_toLower_toLower, lower]

/-- Being the same up to letter case is an equivalence. -/
lemma sameText_equivalence : Equivalence fun a b => sameText a b = true where
  refl := sameText_self
  symm h := sameText_iff.2 (sameText_iff.1 h).symm
  trans h h' := sameText_iff.2 ((sameText_iff.1 h).trans (sameText_iff.1 h'))

/-- A text in lower case is the same as the text itself. -/
lemma sameText_lower (a b : String) : sameText (lower a) b = sameText a b := by
  rw [sameText, lower_lower, sameText]

end Ascii

/-! ## Legal names -/

/-- Whether a character may stand in a name does not depend on its case. -/
lemma isTokenChar_toLower (c : Char) : isTokenChar c.toLower = isTokenChar c := by
  by_cases hc : c.isUpper = true
  · -- the letter is legal in both cases
    have halpha : c.isAlpha = true := by simp [Char.isAlpha, hc]
    have hlower : c.toLower.isAlpha = true := by rwa [Char.isAlpha_toLower_eq_isAlpha]
    simp [isTokenChar, Char.isAlphanum, halpha, hlower]
  · rw [Char.toLower_eq_of_not_isUpper hc]

/-- Whether a text is a legal method does not depend on the case of its letters. -/
lemma isToken_lower (s : String) : isToken (Ascii.lower s) = isToken s := by
  have hchars : isTokenChar ∘ Char.toLower = isTokenChar := funext isTokenChar_toLower
  rw [isToken, isToken, Ascii.toList_lower, List.all_map, hchars, List.isEmpty_map]

/-- Whether a text is a legal name does not depend on the case of its letters. -/
lemma isFieldName_lower (s : String) : isFieldName (Ascii.lower s) = isFieldName s := by
  rw [isFieldName, isFieldName, isToken_lower, Ascii.toList_lower, List.length_map]

/-- Of two names that are the same up to letter case both are legal, or none is. -/
lemma isFieldName_congr {a b : String} (h : Ascii.sameText a b = true) :
    isFieldName a = isFieldName b := by
  rw [← isFieldName_lower, Ascii.sameText_iff.1 h, isFieldName_lower]

/-! ## The spelling of exported stubs -/

/-- The first character of the first part comes first. -/
lemma dashJoin_cons_cons (c : Char) (p : List Char) (ps : List (List Char)) :
    dashJoin ((c :: p) :: ps) = c :: dashJoin (p :: ps) := by
  cases ps <;> rfl

/-- The parts between dashes make up the text. -/
lemma dashJoin_pieces (cs : List Char) : dashJoin (Text.pieces (· == '-') cs) = cs := by
  induction cs with
  | nil => rfl
  | cons c cs ih =>
    obtain ⟨p, ps, hpieces⟩ := List.exists_cons_of_ne_nil (Text.pieces_ne_nil (· == '-') cs)
    rw [hpieces] at ih
    rw [Text.pieces, hpieces]
    split
    · next hc =>
      obtain rfl := eq_of_beq hc
      exact congrArg ('-' :: ·) ih
    · rw [dashJoin_cons_cons, ih]

/-- Joining parts in small letters is joining the parts and taking small letters then. -/
lemma map_toLower_dashJoin (ps : List (List Char)) :
    (dashJoin ps).map Char.toLower = dashJoin (ps.map fun p => p.map Char.toLower) := by
  induction ps with
  | nil => rfl
  | cons p ps ih =>
    cases ps with
    | nil => rfl
    | cons q ps =>
      have hjoin : dashJoin (p :: q :: ps) = p ++ '-' :: dashJoin (q :: ps) := rfl
      rw [hjoin, List.map_append, List.map_cons, ih]
      rfl

/-- The spelling of a part changes the case of letters only. -/
lemma map_toLower_titleSegment (cs : List Char) :
    (titleSegment cs).map Char.toLower = cs.map Char.toLower := by
  have hupper : Char.toLower ∘ Char.toUpper = Char.toLower :=
    funext Char.toLower_toUpper_eq_toLower
  unfold titleSegment
  split
  · rw [List.map_map, hupper]
  · cases cs with
    | nil => rfl
    | cons c cs =>
      dsimp only
      rw [List.map_cons, Ascii.map_toLower_toLower, Char.toLower_toUpper_eq_toLower, List.map_cons]

/-- **The spelling of exported stubs** differs from the name in the case of letters only. -/
lemma lower_titleCase (name : String) : Ascii.lower (titleCase name) = Ascii.lower name := by
  have hsegments : (fun cs : List Char => cs.map Char.toLower) ∘ titleSegment =
      fun cs => cs.map Char.toLower := funext map_toLower_titleSegment
  rw [Ascii.lower, titleCase, String.toList_ofList, map_toLower_dashJoin, List.map_map, hsegments,
    ← map_toLower_dashJoin, dashJoin_pieces, Ascii.lower]

/-- A name in the spelling of exported stubs is the same as the name itself. -/
lemma sameText_titleCase (name other : String) :
    Ascii.sameText (titleCase name) other = Ascii.sameText name other := by
  rw [Ascii.sameText, lower_titleCase, Ascii.sameText]

/-- The spelling of exported stubs keeps legal names legal, and others not. -/
lemma isFieldName_titleCase (name : String) : isFieldName (titleCase name) = isFieldName name := by
  rw [← isFieldName_lower, lower_titleCase, isFieldName_lower]

/-! ## Names that are not passed on -/

/-- Whatever the case of its letters, the name starts with `x-gdc` or is `date`. -/
def IsInternalName (name : String) : Prop :=
  (∃ start rest, name = start ++ rest ∧ Ascii.sameText start "x-gdc" = true) ∨
    Ascii.sameText name "date" = true

/-- The names, besides internal ones, that do not go into stubs. -/
def transferNames : List String :=
  ["content-encoding", "content-length", "connection", "transfer-encoding"]

section Names

variable {a b name : String}

/-- Of two names that are the same up to letter case both are internal, or none is. -/
lemma isInternal_congr (h : Ascii.sameText a b = true) : isInternal a = isInternal b := by
  rw [isInternal, isInternal, Ascii.sameText_iff.1 h]

/-- Of two names that are the same up to letter case both go into stubs, or none does. -/
lemma isSnapshotExcluded_congr (h : Ascii.sameText a b = true) :
    isSnapshotExcluded a = isSnapshotExcluded b := by
  simp only [isSnapshotExcluded, isRelayExcluded, isInternal_congr h, Ascii.sameText,
    Ascii.sameText_iff.1 h]

/-- Whether a name is internal does not depend on the case of its letters. -/
lemma isInternal_lower (name : String) : isInternal (Ascii.lower name) = isInternal name :=
  isInternal_congr (by rw [Ascii.sameText_lower, Ascii.sameText_self])

/-- **The internal names** are recognised in every spelling. -/
lemma isInternal_iff : isInternal name = true ↔ IsInternalName name := by
  have hstart : "x-gdc".toList <+: (Ascii.lower name).toList ↔
      ∃ start rest, name = start ++ rest ∧ Ascii.sameText start "x-gdc" = true := by
    rw [Ascii.toList_lower, List.prefix_map_iff]
    constructor
    · rintro ⟨start, ⟨rest, hname⟩, hlower⟩
      refine ⟨String.ofList start, String.ofList rest, ?_, ?_⟩
      · rw [← String.ofList_append, hname, String.ofList_toList]
      · rw [Ascii.sameText_iff, Ascii.lower, String.toList_ofList, ← hlower]
        rfl
    · rintro ⟨start, rest, rfl, hstart⟩
      refine ⟨start.toList, ⟨rest.toList, String.toList_append.symm⟩, ?_⟩
      rw [← Ascii.toList_lower, Ascii.sameText_iff.1 hstart]
      rfl
  have hdate : Ascii.lower name = "date" ↔ Ascii.sameText name "date" = true := by
    rw [Ascii.sameText_iff, show Ascii.lower "date" = "date" by rfl]
  rw [isInternal, Bool.or_eq_true, List.isPrefixOf_iff_prefix, beq_iff_eq, hstart, hdate,
    IsInternalName]

/-- **The names that do not go into stubs**: internal ones, and those that speak of how an answer
was transferred. -/
lemma isSnapshotExcluded_iff :
    isSnapshotExcluded name = true ↔
      IsInternalName name ∨ ∃ other ∈ transferNames, Ascii.sameText name other = true := by
  simp only [isSnapshotExcluded, isRelayExcluded, Bool.or_eq_true, isInternal_iff, transferNames,
    List.mem_cons, List.not_mem_nil, or_false, exists_eq_or_imp, exists_eq_left, or_assoc]

/-- Names that are sent on to a backend are not internal. -/
lemma isInternal_of_isRelayExcluded (h : isRelayExcluded name = false) :
    isInternal name = false := by
  rw [isRelayExcluded, Bool.or_eq_false_iff, Bool.or_eq_false_iff] at h
  exact h.1.1

/-- Names that go into stubs are not internal. -/
lemma isInternal_of_isSnapshotExcluded (h : isSnapshotExcluded name = false) :
    isInternal name = false := by
  rw [isSnapshotExcluded, Bool.or_eq_false_iff, Bool.or_eq_false_iff] at h
  exact isInternal_of_isRelayExcluded h.1.1

end Names

/-! ## Legal headers -/

/-- A header that HTTP can carry. -/
def isLegalField (f : String × String) : Bool :=
  isFieldName f.1 && isFieldValue (Utf8.encode f.2)

/-- The entry of a header: the name in lower case, and the octets of the value. -/
def fieldEntry (f : String × String) : String × Bytes :=
  (Ascii.lower f.1, Utf8.encode f.2)

/-- **Of the headers that are added one by one**, the legal ones follow those that were there. -/
lemma Headers.entries_foldl_append? (fs : List (String × String)) (h : Headers) :
    (fs.foldl (fun h f => (h.append? f.1 (Utf8.encode f.2)).getD h) h).entries =
      h.entries ++ (fs.filter isLegalField).map fieldEntry := by
  induction fs generalizing h with
  | nil => exact (List.append_nil _).symm
  | cons f fs ih =>
    rw [List.foldl_cons, ih, Headers.append?, ← isLegalField]
    by_cases hf : isLegalField f = true
    · rw [if_pos hf, List.filter_cons_of_pos hf, Option.getD_some, Headers.append, List.map_cons,
        List.append_assoc, List.singleton_append, fieldEntry]
    · rw [if_neg hf, List.filter_cons_of_neg hf, Option.getD_none]

end HttpStub
