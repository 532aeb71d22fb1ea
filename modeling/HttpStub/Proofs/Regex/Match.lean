import HttpStub.Regex.Match
import Mathlib.Data.List.Basic
import Mathlib.Order.MinMax
import Mathlib.Tactic.Common
import Mathlib.Tactic.Tauto

set_option autoImplicit false

/-!
# What a regular expression matches

Which parts of a text an expression matches is said by rules, one for each kind of expression. The
search computes with sets of places instead and cuts repetitions off; it finds a match exactly where
there is one.

## Main definitions

* `HttpStub.Regex.Rounds` — a step taken a number of times.
* `HttpStub.Regex.Node.Matches` — an expression matches the part of a text between two places.
* `HttpStub.Regex.Node.OccursIn` — an expression matches some part of a text.

## Main results

* `HttpStub.Regex.Forward.rounds_min_iff` — more rounds than there are places bring nothing new.
* `HttpStub.Regex.follows_ends` — the ends that are computed are those of the matches.
* `HttpStub.Regex.Node.isFoundIn_iff` — the search decides whether the expression matches anywhere.
-/

namespace HttpStub.Regex

/-! ## Rules -/

/-- The step `R` is taken `n` times. -/
def Rounds (R : Nat → Nat → Prop) : Nat → Nat → Nat → Prop
  | 0, i, j => i = j
  | n + 1, i, j => ∃ k, R i k ∧ Rounds R n k j

/-- The expression matches the part of the text between the places `i` and `j`. After the rounds
that a repetition has to make, it may make as many more as its upper bound leaves. -/
def Node.Matches (text : Array Char) : Node → Nat → Nat → Prop
  | .empty, i, j => i = j
  | .char s, i, j => (∃ c, text[i]? = some c ∧ s.contains c = true) ∧ i + 1 = j
  | .look l, i, j => l.holds (charBefore text i) text[i]? = true ∧ i = j
  | .seq a b, i, j => ∃ k, a.Matches text i k ∧ b.Matches text k j
  | .alt a b, i, j => a.Matches text i j ∨ b.Matches text i j
  | .group a, i, j => a.Matches text i j
  | .times a low high, i, j =>
    ∃ more, (∀ h ∈ high, more ≤ h - low) ∧ Rounds (a.Matches text) (low + more) i j

/-- The expression matches some part of the text. -/
def Node.OccursIn (n : Node) (text : String) : Prop :=
  ∃ i j, i ≤ text.toList.length ∧ n.Matches text.toList.toArray i j

/-! ## Sets of places -/

/-- Two sets of places are merged into the places of either. -/
lemma mem_mergePlaces {x : Nat} {as bs : List Nat} :
    x ∈ mergePlaces as bs ↔ x ∈ as ∨ x ∈ bs := by
  induction as generalizing bs with
  | nil => simp [mergePlaces]
  | cons a as ih =>
    rw [mergePlaces]
    induction bs with
    | nil => simp [mergePlaces.insertFrom, ih]
    | cons b bs ihb =>
      rw [mergePlaces.insertFrom]
      split_ifs with hab hba
      · simp [ih, or_assoc]
      · rw [List.mem_cons, ihb, List.mem_cons, List.mem_cons]
        exact or_left_comm
      · obtain rfl : a = b := by omega
        simp only [List.mem_cons, ih]
        tauto

/-! ## Rounds -/

section Rounds

variable {R : Nat → Nat → Prop} {m n i j : Nat}

/-- Rounds can be split into those that come first and those that come then. -/
lemma rounds_add : Rounds R (m + n) i j ↔ ∃ k, Rounds R m i k ∧ Rounds R n k j := by
  induction m generalizing i with
  | zero => simp [Rounds]
  | succ m ih =>
    rw [Nat.succ_add, Rounds]
    constructor
    · rintro ⟨k, hk, h⟩
      obtain ⟨l, hl, h⟩ := ih.1 h
      exact ⟨l, ⟨k, hk, hl⟩, h⟩
    · rintro ⟨l, ⟨k, hk, hl⟩, h⟩
      exact ⟨k, hk, ih.2 ⟨l, hl, h⟩⟩

/-- One round is one step. -/
lemma rounds_one : Rounds R 1 i j ↔ R i j := by
  simp [Rounds]

/-- A step that never goes back, and never beyond the place `size`. -/
structure Forward (R : Nat → Nat → Prop) (size : Nat) : Prop where
  le : ∀ {i j}, R i j → i ≤ j
  le_size : ∀ {i j}, R i j → i ≤ size → j ≤ size

namespace Forward

variable {size : Nat}

/-- Rounds of such steps never go back either, and never beyond the last place. -/
lemma rounds (h : Forward R size) (n : Nat) : Forward (Rounds R n) size where
  le := by
    induction n with
    | zero => exact fun hij => hij.le
    | succ n ih => exact fun ⟨k, hik, hkj⟩ => (h.le hik).trans (ih hkj)
  le_size := by
    induction n with
    | zero => exact fun hij hi => hij ▸ hi
    | succ n ih => exact fun ⟨k, hik, hkj⟩ hi => ih hkj (h.le_size hik hi)

/-- Of more steps than there are places in between, one stays where it is. -/
lemma exists_stay (h : Forward R size) (hij : Rounds R n i j) (hn : j < i + n) :
    ∃ a b k, a + 1 + b = n ∧ Rounds R a i k ∧ R k k ∧ Rounds R b k j := by
  induction n generalizing i with
  | zero =>
    obtain rfl : i = j := hij
    omega
  | succ n ih =>
    obtain ⟨k, hik, hkj⟩ := hij
    rcases (h.le hik).eq_or_lt with rfl | hlt
    · exact ⟨0, n, i, by omega, rfl, hik, hkj⟩
    · obtain ⟨a, b, l, rfl, hkl, hl, hlj⟩ := ih hkj (by omega)
      exact ⟨a + 1, b, l, by omega, ⟨k, hik, hkl⟩, hl, hlj⟩

/-- **As many steps as there are places** can be replaced by one more, or by as many more as one
likes. -/
lemma rounds_succ_iff (h : Forward R size) (hi : i ≤ size) (hn : size < n) :
    Rounds R (n + 1) i j ↔ Rounds R n i j := by
  constructor
  · intro hij
    have hj := (h.rounds (n + 1)).le_size hij hi
    obtain ⟨a, b, k, hab, hik, -, hkj⟩ := h.exists_stay hij (by omega)
    obtain rfl : n = a + b := by omega
    exact rounds_add.2 ⟨k, hik, hkj⟩
  · intro hij
    have hj := (h.rounds n).le_size hij hi
    obtain ⟨a, b, k, rfl, hik, hk, hkj⟩ := h.exists_stay hij (by omega)
    have hsum : a + 1 + b + 1 = a + (b + 1 + 1) := by omega
    rw [hsum]
    exact rounds_add.2 ⟨k, hik, k, hk, k, hk, hkj⟩

/-- **More rounds than there are places** bring nothing new. -/
lemma rounds_min_iff (h : Forward R size) (hi : i ≤ size) :
    Rounds R (min n (size + 1)) i j ↔ Rounds R n i j := by
  have hmore : ∀ m, Rounds R (size + 1 + m) i j ↔ Rounds R (size + 1) i j := by
    intro m
    induction m with
    | zero => rfl
    | succ m ih => rw [← Nat.add_assoc, h.rounds_succ_iff hi (by omega), ih]
  rcases le_total n (size + 1) with hn | hn
  · rw [min_eq_left hn]
  · obtain ⟨m, rfl⟩ := Nat.exists_eq_add_of_le hn
    rw [min_eq_right hn, hmore]

/-- So of any number of rounds up to a bound, only so many have to be tried. -/
lemma exists_rounds_le_iff (h : Forward R size) (hi : i ≤ size) {p : Nat → Prop}
    (hp : ∀ {m n}, m ≤ n → p n → p m) :
    (∃ m ≤ size + 1, p m ∧ Rounds R m i j) ↔ ∃ m, p m ∧ Rounds R m i j := by
  constructor
  · rintro ⟨m, -, hm, hij⟩
    exact ⟨m, hm, hij⟩
  · rintro ⟨m, hm, hij⟩
    exact ⟨min m (size + 1), min_le_right _ _, hp (min_le_left _ _) hm, (h.rounds_min_iff hi).2 hij⟩

end Forward

end Rounds

/-! ## The search -/

/-- From any places of the text, the function leads where the step does. -/
def Follows (f : List Nat → List Nat) (R : Nat → Nat → Prop) (size : Nat) : Prop :=
  ∀ places, (∀ i ∈ places, i ≤ size) → ∀ j, j ∈ f places ↔ ∃ i ∈ places, R i j

section Follows

variable {f : List Nat → List Nat} {R : Nat → Nat → Prop} {size : Nat}

/-- A function that follows a step leads to places of the text. -/
lemma Follows.forall_le (hf : Follows f R size) (hR : Forward R size) {places : List Nat}
    (hplaces : ∀ i ∈ places, i ≤ size) : ∀ j ∈ f places, j ≤ size := by
  intro j hj
  obtain ⟨i, hi, hij⟩ := (hf places hplaces j).1 hj
  exact hR.le_size hij (hplaces i hi)

/-- One function after another follows one step after another. -/
lemma Follows.comp {g : List Nat → List Nat} {S : Nat → Nat → Prop} (hf : Follows f R size)
    (hR : Forward R size) (hg : Follows g S size) :
    Follows (fun places => g (f places)) (fun i j => ∃ k, R i k ∧ S k j) size := by
  intro places hplaces j
  rw [hg _ (hf.forall_le hR hplaces)]
  simp only [hf places hplaces]
  constructor
  · rintro ⟨k, ⟨i, hi, hik⟩, hkj⟩
    exact ⟨i, hi, k, hik, hkj⟩
  · rintro ⟨i, hi, k, hik, hkj⟩
    exact ⟨k, ⟨i, hi, hik⟩, hkj⟩

/-- A function that follows a step follows every other one that leads from the places of the text to
the same places. -/
lemma Follows.congr {S : Nat → Nat → Prop} (hf : Follows f R size)
    (h : ∀ i j, i ≤ size → (R i j ↔ S i j)) : Follows f S size := by
  intro places hplaces j
  rw [hf places hplaces]
  exact exists_congr fun i => and_congr_right fun hi => h i j (hplaces i hi)

/-- Applied again and again, a function follows rounds of the step. Where it leads nowhere it stops
early. -/
lemma Follows.steps (hf : Follows f R size) (hR : Forward R size) (n : Nat) :
    Follows (steps f n) (Rounds R n) size := by
  induction n with
  | zero => exact fun places _ j => by simp [Regex.steps, Rounds]
  | succ n ih =>
    intro places hplaces j
    rw [Regex.steps]
    split_ifs with hempty
    · simp [List.isEmpty_iff.1 hempty]
    · exact hf.comp hR ih places hplaces j

/-- **Up to `n` rounds**: once a round brings nothing new, neither do the later ones. -/
lemma Follows.upTo (hf : Follows f R size) (hR : Forward R size) (n : Nat) :
    Follows (upTo f n) (fun i j => ∃ m ≤ n, Rounds R m i j) size := by
  induction n with
  | zero =>
    intro places _ j
    simp [Regex.upTo, Rounds]
  | succ n ih =>
    intro places hplaces j
    have hmem := hf places hplaces
    rw [Regex.upTo]
    split_ifs with hsame
    · have hstays : ∀ m, ∀ i ∈ places, Rounds R m i j → j ∈ places := by
        intro m
        induction m with
        | zero => exact fun i hi hij => hij ▸ hi
        | succ m ihm =>
          rintro i hi ⟨k, hik, hkj⟩
          refine ihm k ?_ hkj
          rw [← eq_of_beq hsame, mem_mergePlaces]
          exact .inr ((hmem k).2 ⟨i, hi, hik⟩)
      exact ⟨fun hj => ⟨j, hj, 0, Nat.zero_le _, rfl⟩, fun ⟨i, hi, m, _, hij⟩ => hstays m i hi hij⟩
    · have hmore : ∀ i ∈ mergePlaces places (f places), i ≤ size := by
        intro i hi
        rcases mem_mergePlaces.1 hi with hi | hi
        · exact hplaces i hi
        · exact hf.forall_le hR hplaces i hi
      rw [ih _ hmore]
      simp only [mem_mergePlaces, hmem]
      constructor
      · rintro ⟨k, hk | ⟨i, hi, hik⟩, m, hm, hkj⟩
        · exact ⟨k, hk, m, by omega, hkj⟩
        · exact ⟨i, hi, m + 1, by omega, k, hik, hkj⟩
      · rintro ⟨i, hi, m, hm, hij⟩
        cases m with
        | zero => exact ⟨i, .inl hi, 0, Nat.zero_le _, hij⟩
        | succ m =>
          obtain ⟨k, hik, hkj⟩ := hij
          exact ⟨k, .inr ⟨i, hi, hik⟩, m, by omega, hkj⟩

end Follows

/-- A match never ends before it starts, and not beyond the end of the text. -/
lemma Node.forward_matches (text : Array Char) (n : Node) :
    Forward (n.Matches text) text.size := by
  induction n with
  | empty => exact ⟨fun h => h.le, fun h hi => h ▸ hi⟩
  | char s =>
    refine ⟨fun ⟨_, h⟩ => h ▸ Nat.le_succ _, ?_⟩
    rintro i j ⟨⟨c, hc, -⟩, rfl⟩ -
    exact (Array.getElem?_eq_some_iff.1 hc).1
  | look l => exact ⟨fun h => h.2.le, fun h hi => h.2 ▸ hi⟩
  | seq a b iha ihb =>
    exact ⟨fun ⟨k, hik, hkj⟩ => (iha.le hik).trans (ihb.le hkj),
      fun ⟨k, hik, hkj⟩ hi => ihb.le_size hkj (iha.le_size hik hi)⟩
  | alt a b iha ihb =>
    exact ⟨fun h => h.elim iha.le ihb.le, fun h hi => h.elim (iha.le_size · hi) (ihb.le_size · hi)⟩
  | times a low high ih =>
    exact ⟨fun ⟨more, _, h⟩ => (ih.rounds _).le h, fun ⟨more, _, h⟩ => (ih.rounds _).le_size h⟩
  | group a ih => exact ih

/-- The rounds that a repetition has to make, and those that it may make. -/
lemma follows_times {f : List Nat → List Nat} {R : Nat → Nat → Prop} {size : Nat}
    (hf : Follows f R size) (hR : Forward R size) (low limit : Nat) {p : Nat → Prop}
    (hp : ∀ {m n}, m ≤ n → p n → p m) (hlimit : ∀ m, m ≤ limit ↔ m ≤ size + 1 ∧ p m) :
    Follows (fun places => upTo f limit (steps f (min low (size + 1)) places))
      (fun i j => ∃ more, p more ∧ Rounds R (low + more) i j) size := by
  refine ((hf.steps hR _).comp (hR.rounds _) (hf.upTo hR limit)).congr fun i j hi => ?_
  simp only [rounds_add, hR.rounds_min_iff hi, hlimit]
  constructor
  · rintro ⟨k, hik, m, ⟨-, hm⟩, hkj⟩
    exact ⟨m, hm, k, hik, hkj⟩
  · rintro ⟨m, hm, k, hik, hkj⟩
    have hk := (hR.rounds low).le_size hik hi
    obtain ⟨m', hm', hpm, hkj⟩ := (hR.exists_rounds_le_iff hk hp).2 ⟨m, hm, hkj⟩
    exact ⟨k, hik, m', ⟨hm', hpm⟩, hkj⟩

/-- **The ends that are computed are those of the matches.** -/
lemma follows_ends (text : Array Char) (n : Node) :
    Follows (ends text n) (n.Matches text) text.size := by
  induction n with
  | empty => exact fun places _ j => by simp [ends, Node.Matches]
  | char s =>
    intro places _ j
    rw [ends, List.mem_filterMap]
    refine exists_congr fun i => and_congr_right fun _ => ?_
    rw [Node.Matches]
    cases text[i]? with
    | none => simp
    | some c => simp only [Option.ite_none_right_eq_some, Option.some.injEq, exists_eq_left']
  | look l =>
    intro places _ j
    simp only [ends, List.mem_filter, Node.Matches]
    constructor
    · rintro ⟨hj, hl⟩
      exact ⟨j, hj, hl, rfl⟩
    · rintro ⟨i, hi, hl, rfl⟩
      exact ⟨hi, hl⟩
  | seq a b iha ihb => exact iha.comp (a.forward_matches text) ihb
  | alt a b iha ihb =>
    intro places hplaces j
    rw [ends, mem_mergePlaces, iha places hplaces, ihb places hplaces]
    simp only [Node.Matches, and_or_left, exists_or]
  | times a low high ih =>
    have hforward := a.forward_matches text
    cases high with
    | none =>
      refine (follows_times ih hforward low (text.size + 1) (p := fun _ => True) ?_ ?_).congr ?_
      · exact fun _ _ => trivial
      · exact fun m => by rw [and_true]
      · simp [Node.Matches]
    | some h =>
      refine (follows_times ih hforward low (min (h - low) (text.size + 1)) (p := (· ≤ h - low))
        ?_ ?_).congr ?_
      · exact fun hmn hn => hmn.trans hn
      · exact fun m => by rw [le_min_iff, and_comm]
      · simp [Node.Matches]
  | group a ih => exact ih

/-- **The search finds a match exactly if there is one.** -/
lemma Node.isFoundIn_iff (n : Node) (text : String) :
    n.isFoundIn text = true ↔ n.OccursIn text := by
  have hplaces : ∀ i ∈ List.range (text.toList.toArray.size + 1), i ≤ text.toList.toArray.size := by
    intro i hi
    exact Nat.le_of_lt_succ (List.mem_range.1 hi)
  rw [Node.isFoundIn, Node.OccursIn]
  simp only [Bool.not_eq_true', List.isEmpty_eq_false_iff_exists_mem,
    follows_ends text.toList.toArray n _ hplaces]
  rw [exists_comm]
  simp only [List.mem_range, List.size_toArray, Nat.lt_succ_iff]

end HttpStub.Regex
