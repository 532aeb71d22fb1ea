import HttpStub.Proofs.Json.Rearranged
import HttpStub.Proofs.Json.Text

set_option autoImplicit false

/-!
# What the canonical text decides

Without floating point numbers, values have the same canonical text exactly where they are equal
once the members of their objects are sorted. So sorting the arrays of a value shows in its
canonical text, unless they were sorted.

## Main results

* `HttpStub.Json.Value.canonical_eq_iff` — the values with the same canonical text.
* `HttpStub.Json.Value.canonical_sortArrays_eq_iff` — the values whose canonical text stays when
  arrays are sorted.
* `HttpStub.Json.Value.compact_normalize_eq_iff` — the values with the same normal form.
-/

namespace HttpStub.Json.Value

variable {v w : Value}

/-- **Values have the same canonical text** exactly where they differ in the order of members
only. -/
lemma canonical_eq_iff (hv : v.Legible) (hw : w.Legible) :
    v.canonical = w.canonical ↔ v.sortKeys = w.sortKeys := by
  constructor
  · intro h
    have hchars : v.canonicalChars = w.canonicalChars := String.ofList_injective h
    rw [← chars_sortKeys hv.floatFree, ← chars_sortKeys hw.floatFree] at hchars
    exact compact_inj hv.sortKeys hw.sortKeys (congrArg String.ofList hchars)
  · intro h
    rw [← canonical_sortKeys v, h, canonical_sortKeys]

/-- **Sorting arrays leaves the canonical text** exactly where all arrays are sorted.

**Proof sketch.** If the text stays, sorting the arrays changed nothing but the order of members;
the result has sorted arrays, and these do not depend on the order of members. -/
lemma canonical_sortArrays_eq_iff (hv : v.Legible) :
    v.sortArrays.canonical = v.canonical ↔ v.ArraysSorted := by
  constructor
  · intro h
    have hsort : v.sortArrays.sortKeys = v.sortKeys := (canonical_eq_iff hv.sortArrays hv).1 h
    rw [← arraysSorted_sortKeys_iff, ← hsort, arraysSorted_sortKeys_iff]
    exact arraysSorted_sortArrays v
  · intro h
    rw [sortArrays_eq_self h]

/-- **Values have the same normal form** without sorted arrays where they are equal, or equal up to
the order of members if that order is not kept. -/
lemma compact_normalize_eq_iff (preserveKeyOrder : Bool) (hv : v.Legible) (hw : w.Legible) :
    (v.normalize false preserveKeyOrder).compact = (w.normalize false preserveKeyOrder).compact ↔
      v.canonical = w.canonical ∧ (preserveKeyOrder = true → v = w) := by
  cases preserveKeyOrder with
  | false =>
    have hiff : v.sortKeys.compact = w.sortKeys.compact ↔ v.canonical = w.canonical := by
      rw [compact, compact, chars_sortKeys hv.floatFree, chars_sortKeys hw.floatFree]
      rfl
    simpa [normalize] using hiff
  | true =>
    have hiff : v.compact = w.compact ↔ v = w := ⟨compact_inj hv hw, fun h => h ▸ rfl⟩
    simp only [normalize, Bool.false_eq_true, if_false, if_true, hiff, forall_const]
    exact ⟨fun h => ⟨h ▸ rfl, h⟩, And.right⟩

end HttpStub.Json.Value
