import HttpStub.Exchange.Snapshot
import Mathlib.Data.List.Basic
import Mathlib.Data.List.Nodup
import Mathlib.Data.Option.Basic

set_option autoImplicit false

/-!
# Chains of states

The stubs of a request that was repeated wait for the states of a chain: the first one for the state
in which every scenario starts, each other one for the state that the stub before it sets.

## Main definitions

* `HttpStub.chainStub` — the stub of one repetition.
* `HttpStub.StateChain` — stubs that wait for the states of a chain, in their order.
* `HttpStub.Walk` — the stubs that are passed when the states are followed.
* `HttpStub.LinearChain` — stubs that form a single chain, in any order.

## Main results

* `HttpStub.stateName_injective` — the states of a chain are different.
* `HttpStub.stateChain_chain` — the stubs of a repeated request are such stubs.
* `HttpStub.StateChain.walk_iff` — following the states passes all stubs in their order, and stops.
* `HttpStub.StateChain.linearChain` — stubs that wait for the states of a chain form one.
-/

namespace HttpStub

/-! ## States -/

/-- Different numbers have different texts. -/
lemma toString_injective {i j : Nat} (h : toString i = toString j) : i = j := by
  have hdigits : Nat.toDigits 10 i = Nat.toDigits 10 j := by
    rw [← Nat.toList_repr, ← Nat.toList_repr]
    exact congrArg String.toList h
  rw [← Nat.ofDigitChars_ten_toDigits (n := i), hdigits, Nat.ofDigitChars_ten_toDigits]

/-- **The states of a chain are different.** -/
lemma stateName_injective : Function.Injective stateName := by
  have hstarted : ∀ n : Nat, "Started" ≠ "state_" ++ toString n := by
    intro n h
    have hchars := congrArg (fun s => s.toList.head?) h
    simp at hchars
  intro i j h
  unfold stateName at h
  split at h <;> split at h
  · omega
  · exact absurd h (hstarted j)
  · exact absurd h.symm (hstarted i)
  · exact toString_injective ((String.append_right_inj _).1 h)

/-! ## The stubs of a repeated request -/

/-- The stub of an exchange as repetition `j` of `n`, counted from zero: it waits for its own state
and sets the next one, unless it is the last. -/
def chainStub (o : SnapshotOptions) (name : String) (n j : Nat) (e : Exchange) : Stub :=
  { e.toStub o with
    scenarioName := some name
    requiredScenarioState := some (stateName j)
    newScenarioState := if j + 1 < n then some (stateName (j + 1)) else none }

/-- A chain of stubs in terms of the single repetitions. The count need not start at zero: this is
what carries the induction. -/
lemma chain_eq_map (o : SnapshotOptions) (name : String) (m : Nat) (es : List Exchange) :
    chain o name m es =
      (es.zipIdx m).map fun p => chainStub o name (m + es.length) p.2 p.1 := by
  induction es generalizing m with
  | nil => rfl
  | cons e es ih =>
    have hlast : (if es.isEmpty then none else some (stateName (m + 1))) =
        if m + 1 < m + (es.length + 1) then some (stateName (m + 1)) else none := by
      cases es with
      | nil => simp
      | cons e' es => simp
    have hlength : m + (es.length + 1) = m + 1 + es.length := by omega
    rw [chain, ih, List.zipIdx_cons, List.map_cons, List.length_cons, hlast, hlength]
    rfl

/-- The stubs wait for the states of a chain, each one sets the state that the next one waits for,
and the last one sets none. -/
structure StateChain (ss : List Stub) : Prop where
  waits : ∀ j s, ss[j]? = some s → s.requiredScenarioState = some (stateName j)
  sets : ∀ j s, ss[j]? = some s →
    s.newScenarioState = if j + 1 < ss.length then some (stateName (j + 1)) else none

/-- **The stubs of a repeated request** wait for the states of a chain. -/
lemma stateChain_chain (o : SnapshotOptions) (name : String) (es : List Exchange) :
    StateChain (chain o name 0 es) := by
  have hget : ∀ j s, (chain o name 0 es)[j]? = some s →
      ∃ e, s = chainStub o name (chain o name 0 es).length j e := by
    intro j s hs
    have hlength : (chain o name 0 es).length = 0 + es.length := by
      rw [chain_eq_map, List.length_map, List.length_zipIdx, Nat.zero_add]
    rw [hlength]
    rw [chain_eq_map, List.getElem?_map, List.getElem?_zipIdx, Option.map_map,
      Option.map_eq_some_iff] at hs
    obtain ⟨e, -, rfl⟩ := hs
    exact ⟨e, by simp⟩
  constructor
  · intro j s hs
    obtain ⟨e, rfl⟩ := hget j s hs
    rfl
  · intro j s hs
    obtain ⟨e, rfl⟩ := hget j s hs
    rfl

/-! ## Following the states -/

/-- The stubs that are passed one after the other from a state on: each waits for the state at hand
and sets the next one, and the walk ends where none is set. -/
inductive Walk (ss : List Stub) : Option String → List Stub → Prop
  | stop : Walk ss none []
  | step {state : String} {s : Stub} {run : List Stub} (mem : s ∈ ss)
      (waits : s.requiredScenarioState = some state) (rest : Walk ss s.newScenarioState run) :
      Walk ss (some state) (s :: run)

namespace StateChain

variable {ss : List Stub} {j : Nat}

/-- A stub that waits for a state of the chain stands where this state does. -/
lemma getElem?_of_waits (h : StateChain ss) {s : Stub} (hs : s ∈ ss)
    (hstate : s.requiredScenarioState = some (stateName j)) : ss[j]? = some s := by
  obtain ⟨i, hi⟩ := List.mem_iff_getElem?.1 hs
  have hij : stateName i = stateName j := Option.some.inj ((h.waits i s hi).symm.trans hstate)
  rwa [stateName_injective hij] at hi

/-- **Following the states** from one of them on passes the stubs from there on in their order, each
of them once, and stops; nothing else can be passed.

**Proof sketch.** By induction on the number of stubs that are left. Only the stub at hand waits for
the state at hand, and the state that it sets is the one that the next stub waits for. -/
lemma walk_iff (h : StateChain ss) (hj : j < ss.length) {run : List Stub} :
    Walk ss (some (stateName j)) run ↔ run = ss.drop j := by
  induction hn : ss.length - j generalizing j run with
  | zero => omega
  | succ n ih =>
    have hget : ss[j]? = some ss[j] := List.getElem?_eq_getElem hj
    have hnext : ∀ rest, Walk ss ss[j].newScenarioState rest ↔ rest = ss.drop (j + 1) := by
      intro rest
      rw [h.sets j _ hget]
      by_cases hlast : j + 1 < ss.length
      · rw [if_pos hlast]
        exact ih hlast (by omega)
      · rw [if_neg hlast, List.drop_eq_nil_of_le (by omega)]
        constructor
        · intro hwalk
          cases hwalk
          rfl
        · rintro rfl
          exact .stop
    rw [List.drop_eq_getElem_cons hj]
    constructor
    · intro hwalk
      cases hwalk with
      | @step _ s rest mem waits hrest =>
        obtain rfl : ss[j] = s := Option.some.inj (hget.symm.trans (h.getElem?_of_waits mem waits))
        rw [(hnext rest).1 hrest]
    · rintro rfl
      exact .step (List.getElem_mem hj) (h.waits j _ hget) ((hnext _).2 rfl)

end StateChain

/-! ## Linear chains -/

/-- The stubs form a single linear chain: exactly one of them waits for the state in which scenarios
start, no two wait for the same state, and each state that is set is waited for by exactly one. -/
structure LinearChain (ss : List Stub) : Prop where
  start : ss.countP (·.requiredScenarioState = some "Started") = 1
  apart : (ss.map Stub.requiredScenarioState).Nodup
  next : ∀ s ∈ ss, ∀ state, s.newScenarioState = some state →
    ss.countP (·.requiredScenarioState = some state) = 1

/-- The order of the stubs does not count. -/
lemma LinearChain.perm {ss ts : List Stub} (h : LinearChain ss) (hperm : ss.Perm ts) :
    LinearChain ts where
  start := (hperm.countP_eq _).symm.trans h.start
  apart := (hperm.map _).nodup_iff.1 h.apart
  next s hs state hstate :=
    (hperm.countP_eq _).symm.trans (h.next s (hperm.mem_iff.2 hs) state hstate)

namespace StateChain

variable {ss : List Stub} {j : Nat}

/-- The stubs wait for the states of the chain, one after the other. -/
lemma map_requiredScenarioState (h : StateChain ss) :
    ss.map Stub.requiredScenarioState = (List.range ss.length).map (some ∘ stateName) := by
  refine List.ext_getElem? fun j => ?_
  rw [List.getElem?_map, List.getElem?_map]
  by_cases hj : j < ss.length
  · have hget : ss[j]? = some ss[j] := List.getElem?_eq_getElem hj
    rw [List.getElem?_range hj, hget, Option.map_some, h.waits j _ hget]
    rfl
  · rw [List.getElem?_eq_none (by omega), List.getElem?_eq_none (by simpa using hj)]
    rfl

/-- No two stubs of a chain wait for the same state. -/
lemma nodup_requiredScenarioState (h : StateChain ss) :
    (ss.map Stub.requiredScenarioState).Nodup := by
  rw [h.map_requiredScenarioState]
  exact List.nodup_range.map ((Option.some_injective _).comp stateName_injective)

/-- Exactly one stub waits for a state of the chain. -/
lemma countP_waits (h : StateChain ss) (hj : j < ss.length) :
    ss.countP (·.requiredScenarioState = some (stateName j)) = 1 := by
  have hmem : some (stateName j) ∈ ss.map Stub.requiredScenarioState := by
    rw [h.map_requiredScenarioState]
    exact List.mem_map_of_mem (List.mem_range.2 hj)
  have hcount := List.count_eq_one_of_mem h.nodup_requiredScenarioState hmem
  rw [List.count, List.countP_map] at hcount
  simpa only [Function.comp_def, Option.some_beq_some, beq_eq_decide] using hcount

/-- **Stubs that wait for the states of a chain form a single linear chain.** -/
lemma linearChain (h : StateChain ss) (hne : ss ≠ []) : LinearChain ss where
  start := h.countP_waits (List.length_pos_of_ne_nil hne)
  apart := h.nodup_requiredScenarioState
  next s hs state hstate := by
    obtain ⟨j, hj⟩ := List.mem_iff_getElem?.1 hs
    rw [h.sets j s hj] at hstate
    split at hstate
    · next hlast =>
      obtain rfl := Option.some.inj hstate
      exact h.countP_waits hlast
    · cases hstate

end StateChain

end HttpStub
