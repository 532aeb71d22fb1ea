import HttpStub.Exchange.Recorder
import Mathlib.Data.List.Flatten
import Mathlib.Data.List.Perm.Basic
import Mathlib.Logic.Function.Basic

set_option autoImplicit false

/-!
# Recorders with many clients

Any number of clients record exchanges, drain and clear, each operation while the recorder is
locked. What a client does next may depend on what it was given before. Whichever client goes on at
each step, the exchanges that were recorded are those that a client was given, those that were
dropped and those that are held.

## Main definitions

* `HttpStub.Recorder.Client` — what a client is going to do.
* `HttpStub.Recorder.Step`, `HttpStub.Recorder.Run` — one client goes on; some steps.
* `HttpStub.Recorder.leftOver` — the exchanges of a history that nothing takes out later.

## Main results

* `HttpStub.Recorder.Step.held_eq`, `HttpStub.Recorder.Step.taken_eq` — what is held after a step,
  and what the step takes out.
* `HttpStub.Recorder.Run.held_eq` — what is held is what nothing has taken out.
* `HttpStub.Recorder.run_accounts` — no exchange is lost, and none is given twice.
-/

namespace HttpStub.Recorder

/-! ## Clients -/

/-- What a client is going to do. It goes on with what an operation returns. -/
inductive Client where
  | done
  | record (e : Exchange) (next : Client)
  | drain (filter? : Option UrlFilter) (next : List Exchange → Client)
  | clear (next : Nat → Client)

/-- What a client has done, with the exchanges that it took out. -/
inductive Event (ι : Type) where
  | recorded (i : ι) (e : Exchange)
  | drained (i : ι) (filter? : Option UrlFilter) (es : List Exchange)
  | cleared (i : ι) (es : List Exchange)

/-- A recorder and its clients. -/
structure System (ι : Type) where
  recorder : Recorder
  client : ι → Client

section Steps

variable {ι : Type} [DecidableEq ι]

/-- One of the clients goes on. -/
inductive Step : System ι → Event ι → System ι → Prop where
  | record {s : System ι} {i : ι} {e : Exchange} {next : Client}
      (hi : s.client i = .record e next) :
      Step s (.recorded i e) ⟨s.recorder.record e, Function.update s.client i next⟩
  | drain {s : System ι} {i : ι} {filter? : Option UrlFilter} {next : List Exchange → Client}
      (hi : s.client i = .drain filter? next) :
      Step s (.drained i filter? (s.recorder.drain filter?).1)
        ⟨(s.recorder.drain filter?).2,
          Function.update s.client i (next (s.recorder.drain filter?).1)⟩
  | clear {s : System ι} {i : ι} {next : Nat → Client} (hi : s.client i = .clear next) :
      Step s (.cleared i s.recorder.held)
        ⟨s.recorder.clear.2, Function.update s.client i (next s.recorder.clear.1)⟩

/-- Some steps, with the history that they leave. -/
inductive Run (s : System ι) : List (Event ι) → System ι → Prop where
  | start : Run s [] s
  | step {h : List (Event ι)} {s₁ s₂ : System ι} {ev : Event ι} (hrun : Run s h s₁)
      (hstep : Step s₁ ev s₂) : Run s (h ++ [ev]) s₂

end Steps

/-! ## Histories -/

section Histories

variable {ι : Type}

/-- The exchange passes the filter; without a filter all do. -/
def passes (filter? : Option UrlFilter) (e : Exchange) : Bool :=
  filter?.all (·.accepts e.target)

namespace Event

/-- The exchange that was recorded. -/
def recordedExchange : Event ι → List Exchange
  | recorded _ e => [e]
  | _ => []

/-- The exchanges that were given to a client. -/
def given : Event ι → List Exchange
  | drained _ _ es => es
  | _ => []

/-- The exchanges that were dropped. -/
def dropped : Event ι → List Exchange
  | cleared _ es => es
  | _ => []

/-- An exchange that is held is taken out. -/
def takes (e : Exchange) : Event ι → Bool
  | recorded _ _ => false
  | drained _ filter? _ => passes filter? e
  | cleared _ _ => true

end Event

/-- The exchanges of a history in the order of their arrival. -/
def arrived (h : List (Event ι)) : List Exchange :=
  h.flatMap Event.recordedExchange

/-- The exchanges that clients were given. -/
def given (h : List (Event ι)) : List Exchange :=
  h.flatMap Event.given

/-- The exchanges that were dropped. -/
def dropped (h : List (Event ι)) : List Exchange :=
  h.flatMap Event.dropped

/-- The exchanges that nothing takes out after they have been recorded, in the order of their
arrival. -/
def leftOver : List (Event ι) → List Exchange
  | [] => []
  | ev :: h => (ev.recordedExchange.filter fun e => !h.any (Event.takes e)) ++ leftOver h

/-- What is left over has arrived, and keeps the order of its arrival. -/
lemma leftOver_sublist (h : List (Event ι)) : (leftOver h).Sublist (arrived h) := by
  induction h with
  | nil => exact List.Sublist.slnil
  | cons ev h ih =>
    rw [arrived, List.flatMap_cons]
    exact List.filter_sublist.append ih

/-- **What one more event leaves**: of the exchanges that were left those that it does not take out,
and then the one that it records.

**Proof sketch.** By induction on the history. What its first event records is left if no later
event takes it out, and the event at the end is one more of the later ones. -/
lemma leftOver_append_singleton (h : List (Event ι)) (ev : Event ι) :
    leftOver (h ++ [ev]) =
      (leftOver h).filter (fun e => !ev.takes e) ++ ev.recordedExchange := by
  induction h with
  | nil => simp [leftOver]
  | cons ev' h ih =>
    have hlater : ∀ e, (!(h ++ [ev]).any (Event.takes e)) =
        (!ev.takes e && !h.any (Event.takes e)) := by
      intro e
      rw [List.any_append, Bool.not_or, Bool.and_comm]
      simp
    rw [List.cons_append, leftOver, leftOver, ih, List.filter_append, List.append_assoc,
      List.filter_filter]
    simp only [hlater]

end Histories

/-! ## Steps -/

/-- **A drain gives the exchanges that pass its filter** and keeps the others, both in their order.
-/
lemma drain_eq (r : Recorder) (filter? : Option UrlFilter) :
    r.drain filter? =
      (r.held.filter (passes filter?), ⟨r.held.filter fun e => !passes filter? e⟩) := by
  cases filter? with
  | none => simp [drain, show passes none = fun _ => true from rfl, empty]
  | some f =>
    simp [drain, show passes (some f) = fun e => f.accepts e.target from rfl,
      List.partition_eq_filter_filter, Function.comp_def]

section Steps

variable {ι : Type} [DecidableEq ι] {s s' : System ι} {ev : Event ι} {h : List (Event ι)}

/-- **What is held after a step**: what the step does not take out, and then what it records. -/
lemma Step.held_eq (hstep : Step s ev s') :
    s'.recorder.held =
      s.recorder.held.filter (fun e => !ev.takes e) ++ ev.recordedExchange := by
  cases hstep with
  | record hi => simp [Recorder.record, Event.takes, Event.recordedExchange]
  | drain hi => simp [drain_eq, Event.takes, Event.recordedExchange]
  | clear hi => simp [Recorder.clear, Recorder.empty, Event.takes, Event.recordedExchange]

/-- **What a step takes out** is given to a client or dropped, in the order in which it was held. -/
lemma Step.taken_eq (hstep : Step s ev s') :
    ev.given ++ ev.dropped = s.recorder.held.filter fun e => ev.takes e := by
  cases hstep with
  | record hi => simp [Event.given, Event.dropped, Event.takes]
  | drain hi => simp [drain_eq, Event.given, Event.dropped, Event.takes]
  | clear hi => simp [Event.given, Event.dropped, Event.takes]

/-- No step loses an exchange. -/
lemma Step.held_perm (hstep : Step s ev s') :
    (s.recorder.held ++ ev.recordedExchange).Perm
      (ev.given ++ ev.dropped ++ s'.recorder.held) := by
  rw [hstep.held_eq, hstep.taken_eq, ← List.append_assoc]
  exact (List.filter_append_perm (fun e => ev.takes e) s.recorder.held).symm.append_right _

/-! ## Runs -/

/-- **What is held after a run** is what nothing has taken out. -/
lemma Run.held_eq (hrun : Run s h s') (hs : s.recorder = empty) :
    s'.recorder.held = leftOver h := by
  induction hrun with
  | start => rw [hs]; rfl
  | step _ hstep ih => rw [leftOver_append_singleton, ← ih, hstep.held_eq]

/-- **No run loses an exchange.**

**Proof sketch.** By induction on the run. What a step takes out was held before it, and is given or
dropped now; the rest is still held, with what the step records. -/
lemma Run.arrived_perm (hrun : Run s h s') (hs : s.recorder = empty) :
    (arrived h).Perm (given h ++ dropped h ++ s'.recorder.held) := by
  induction hrun with
  | start => rw [hs]; exact List.Perm.refl _
  | @step h s₁ s₂ ev _ hstep ih =>
    simp only [arrived, given, dropped, List.flatMap_append, List.flatMap_singleton] at ih ⊢
    have hevent := ih.append_right ev.recordedExchange
    rw [List.append_assoc _ s₁.recorder.held] at hevent
    refine hevent.trans ((hstep.held_perm.append_left _).trans ?_)
    -- what the step gives comes before what was dropped earlier
    simp only [List.append_assoc]
    exact (List.perm_append_comm_assoc _ _ _).append_left _

/-- A run can be taken apart at an event.

**Proof sketch.** By induction on the run, which grows at its end: the event is that of the last
step, or it is in the run before this step. -/
lemma Run.split {h₂ : List (Event ι)} (hrun : Run s (h ++ ev :: h₂) s') :
    ∃ s₁ s₂, Run s h s₁ ∧ Step s₁ ev s₂ ∧ Run s₂ h₂ s' := by
  generalize hall : h ++ ev :: h₂ = all at hrun
  induction hrun generalizing h₂ with
  | start => exact absurd hall (by simp)
  | @step all s₁ s₂ ev' hrun hstep ih =>
    rcases List.eq_nil_or_concat' h₂ with rfl | ⟨h₂, ev₂, rfl⟩
    · obtain ⟨rfl, hev⟩ := List.append_inj' hall rfl
      obtain rfl : ev = ev' := by simpa using hev
      exact ⟨s₁, s₂, hrun, hstep, .start⟩
    · rw [← List.cons_append, ← List.append_assoc] at hall
      obtain ⟨hinit, hev⟩ := List.append_inj' hall rfl
      obtain rfl : ev₂ = ev' := by simpa using hev
      obtain ⟨t₁, t₂, hbefore, hevent, hafter⟩ := ih hinit
      exact ⟨t₁, t₂, hbefore, hevent, hafter.step hstep⟩

/-- **No exchange is lost, and none is given twice.** Whatever clients do with a recorder that is
empty at first, and however they take turns, at every moment the exchanges that were recorded are
those that clients were given, those that were dropped and those that are held. The ones that are
held are those that nothing has taken out, in the order of their arrival; and each time a client
drains the recorder it is given those that pass its filter, in this order, and the others are left
in this order. -/
theorem run_accounts (hrun : Run s h s') (hs : s.recorder = empty) :
    (arrived h).Perm (given h ++ dropped h ++ s'.recorder.held) ∧
    s'.recorder.held = leftOver h ∧ (leftOver h).Sublist (arrived h) ∧
    ∀ h₁ i filter? es h₂, h = h₁ ++ .drained i filter? es :: h₂ →
      es = (leftOver h₁).filter (passes filter?) ∧
      ∃ s₁ s₂, Run s h₁ s₁ ∧ Step s₁ (.drained i filter? es) s₂ ∧ Run s₂ h₂ s' ∧
        s₁.recorder.held = leftOver h₁ ∧
        s₂.recorder.held = (leftOver h₁).filter fun e => !passes filter? e := by
  refine ⟨hrun.arrived_perm hs, hrun.held_eq hs, leftOver_sublist h, ?_⟩
  rintro h₁ i filter? es h₂ rfl
  obtain ⟨s₁, s₂, hbefore, hstep, hafter⟩ := hrun.split
  have hheld := hbefore.held_eq hs
  have htaken := hstep.taken_eq
  have hleft := hstep.held_eq
  rw [hheld] at htaken hleft
  refine ⟨?_, s₁, s₂, hbefore, hstep, hafter, hheld, ?_⟩
  · simpa [Event.given, Event.dropped, Event.takes] using htaken
  · simpa [Event.takes, Event.recordedExchange] using hleft

/-- A request for a target that was answered with nothing. -/
def asked (target : String) : Exchange :=
  ⟨"GET", target, [], 200, [], []⟩

/-- One client records two exchanges, and another one drains one of them and clears the recorder. -/
def crew : System Bool :=
  ⟨empty, fun i =>
    if i then .drain (some (.ofPattern "^/api")) fun _ => .clear fun _ => .done
    else .record (asked "/api") (.record (asked "/") .done)⟩

/-- When both clients are done, one exchange has been given to a client, and one was dropped. -/
theorem crew_accounts :
    crew.recorder = empty ∧ ∃ h s, Run crew h s ∧ given h = [asked "/api"] ∧
      dropped h = [asked "/"] ∧ s.recorder = empty ∧
      (arrived h).Perm (given h ++ dropped h ++ s.recorder.held) := by
  have hrun := (((Run.start.step (.record (s := crew) (i := false) rfl)).step
    (.record (i := false) rfl)).step (.drain (i := true) rfl)).step (.clear (i := true) rfl)
  obtain ⟨hperm, -⟩ := run_accounts hrun rfl
  exact ⟨rfl, _, _, hrun, by decide +kernel, by decide +kernel, rfl, hperm⟩

end Steps

end HttpStub.Recorder
