import HttpStub.Proofs.Http.Target
import HttpStub.Proofs.Text.Percent
import Mathlib.Data.List.Forall2

set_option autoImplicit false

/-!
# Spelled queries are read back

A query may spell its parameters in many ways. Whichever is chosen for each character, the
parameters are read from it as they were written down.

## Main definitions

* `HttpStub.SpellsPair` — the spellings of a parameter.
* `HttpStub.SpellsQuery` — the spellings of a list of parameters.

## Main results

* `HttpStub.queryPair_of_spelled` — a spelled parameter is read back.
* `HttpStub.queryPairs_of_spelled` — a spelled list of parameters is read back.
-/

namespace HttpStub

open Percent

/-- The spellings of a parameter: its name and its value, with an equals sign between them. -/
def SpellsPair (pair : String × String) (segment : List Char) : Prop :=
  ∃ name value, Spelled SpellsChar pair.1.toList name ∧ Spelled SpellsChar pair.2.toList value ∧
    segment = name ++ '=' :: value

/-- **The spellings of parameters**: those of each one, joined by `&`. -/
def SpellsQuery (pairs : List (String × String)) (query : String) : Prop :=
  ∃ segments, List.Forall₂ SpellsPair pairs segments ∧
    query = String.ofList (['&'].intercalate segments)

section Spelled

variable {pair : String × String} {segment : List Char}

/-- **A spelled parameter is read back**: no spelling of a name holds an equals sign, so the first
one divides the segment. -/
lemma queryPair_of_spelled (h : SpellsPair pair segment) : queryPair segment = pair := by
  obtain ⟨name, value, hname, hvalue, rfl⟩ := h
  have hinner := hname.forall_mem fun _ _ hc => SpellsChar.inner hc
  have hcut : Text.cut? '=' (name ++ '=' :: value) = some (name, value) := by
    apply Text.cut?_eq_some_iff.2
    exact ⟨rfl, fun hmem => (hinner _ hmem).2 rfl⟩
  simp only [queryPair, hcut, Option.getD_some, decodeComponent_of_spelled hname,
    decodeComponent_of_spelled hvalue]

/-- A spelled parameter holds no separator, so that it ends at the next one. -/
lemma SpellsPair.not_mem (h : SpellsPair pair segment) : '&' ∉ segment := by
  obtain ⟨name, value, hname, hvalue, rfl⟩ := h
  have hfree : ∀ {cs t}, Spelled SpellsChar cs t → '&' ∉ t := fun ht hmem =>
    (ht.forall_mem (fun _ _ hc => SpellsChar.inner hc) _ hmem).1 rfl
  rw [List.mem_append, List.mem_cons, not_or, not_or]
  exact ⟨hfree hname, by decide, hfree hvalue⟩

/-- Every list of parameters has a spelling: the one with just the reserved characters escaped. -/
lemma exists_spellsQuery (pairs : List (String × String)) : ∃ query, SpellsQuery pairs query := by
  have hescape := spelled_escape (p := fun c => c ∈ reserved) fun c hc => decide_eq_true hc
  refine ⟨_, pairs.map fun p => escape (· ∈ reserved) p.1.toList ++
    '=' :: escape (· ∈ reserved) p.2.toList, ?_, rfl⟩
  rw [List.forall₂_map_right_iff, List.forall₂_same]
  exact fun p _ => ⟨_, _, hescape _, hescape _, rfl⟩

end Spelled

/-- **Parameters are read back from every spelling.** A list of parameters that is not empty has
spellings, and each of them is read as this list, in its order.

**Proof sketch.** No segment holds `&`, so the segments are the pieces of the query. Each one is cut
at its first equals sign, and both sides are spellings of texts. -/
theorem queryPairs_of_spelled {pairs : List (String × String)} (hne : pairs ≠ []) :
    (∃ query, SpellsQuery pairs query) ∧
      ∀ query, SpellsQuery pairs query → queryPairs query = pairs := by
  refine ⟨exists_spellsQuery pairs, ?_⟩
  rintro query ⟨segments, hsegments, rfl⟩
  have hsome : segments ≠ [] := by
    rintro rfl
    exact hne (List.forall₂_nil_right_iff.1 hsegments)
  have hread : List.Forall₂ (fun s p => '&' ∉ s ∧ queryPair s = p) segments pairs :=
    List.Forall₂.flip (hsegments.imp fun p s h => ⟨h.not_mem, queryPair_of_spelled h⟩)
  obtain ⟨hfree, hpairs⟩ := (List.forall₂_and_left _ _).1 hread
  rw [queryPairs, String.toList_ofList, Text.pieces_intercalate hsome hfree]
  rwa [← List.forall₂_map_left_iff (f := queryPair), List.forall₂_eq_eq_eq] at hpairs

/-- A name and a value in which all kinds of spellings are mixed, and an empty parameter. -/
theorem queryPairs_of_mixed_spelling :
    [("é b", "é&"), ("", "")] ≠ [] ∧ SpellsQuery [("é b", "é&"), ("", "")] "é+%62=%c3%A9%26&=" ∧
      queryPairs "é+%62=%c3%A9%26&=" = [("é b", "é&"), ("", "")] := by
  have hb : SpellsChar 'b' ['%', '6', '2'] :=
    .escaped (.cons (t := ['%', '6', '2']) ⟨_, _, rfl, by decide, by decide⟩ .nil)
  have hamp : SpellsChar '&' ['%', '2', '6'] :=
    .escaped (.cons (t := ['%', '2', '6']) ⟨_, _, rfl, by decide, by decide⟩ .nil)
  have he : SpellsChar 'é' ['%', 'c', '3', '%', 'A', '9'] :=
    .escaped (.cons (t := ['%', 'c', '3']) ⟨_, _, rfl, by decide, by decide⟩
      (.cons (t := ['%', 'A', '9']) ⟨_, _, rfl, by decide, by decide⟩ .nil))
  have hname : Spelled SpellsChar "é b".toList "é+%62".toList :=
    .cons (t := ['é']) (.literal (by decide))
      (.cons (t := ['+']) .plus (.cons (t := ['%', '6', '2']) hb .nil))
  have hvalue : Spelled SpellsChar "é&".toList "%c3%A9%26".toList :=
    .cons (t := ['%', 'c', '3', '%', 'A', '9']) he (.cons (t := ['%', '2', '6']) hamp .nil)
  have hquery : SpellsQuery [("é b", "é&"), ("", "")] "é+%62=%c3%A9%26&=" :=
    ⟨_, .cons ⟨_, _, hname, hvalue, rfl⟩ (.cons ⟨_, _, .nil, .nil, rfl⟩ .nil), by decide⟩
  have hne : [("é b", "é&"), ("", "")] ≠ [] := by simp
  exact ⟨hne, hquery, (queryPairs_of_spelled hne).2 _ hquery⟩

end HttpStub
