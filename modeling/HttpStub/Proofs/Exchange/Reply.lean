import HttpStub.Exchange.ToStub
import HttpStub.Proofs.Groups
import HttpStub.Proofs.Http.Header

set_option autoImplicit false

/-!
# The headers of a generated stub

The headers of a recorded response are grouped by name, and each group becomes an entry of the stub
under a spelling of its own. No two entries are the same name in different letter case, so what is
served of a name is exactly what has been recorded of it.

## Main definitions

* `HttpStub.Exchange.groupEntry` — the entry of a group in a stub.
* `HttpStub.Exchange.recordedValues` — what has been recorded under a name in any letter case.

## Main results

* `HttpStub.Reply.entries_serve` — the headers of a served response.
* `HttpStub.Exchange.perm_replyHeaders` — the entries of a stub are its groups, none of them lost.
* `HttpStub.Exchange.values_serve_reply` — the values that are served under a name.
* `HttpStub.Exchange.headers_keep_values` — a stub has one header for each name, with all values.
-/

namespace HttpStub

/-! ## Serving -/

namespace Reply

/-- **The headers of a served response** are the legal ones that the stub asks for. -/
lemma entries_serve (r : Reply) :
    r.serve.headers.entries = (r.fields.filter isLegalField).map fieldEntry :=
  Headers.entries_foldl_append? r.fields .empty

end Reply

/-- The headers of a kind of names are those of the entries with such names. -/
lemma filter_flatMap_values (p : String → Bool) (es : List (String × HeaderValues)) :
    ((es.flatMap fun e => e.2.toList.map fun v => (e.1, v)).filter fun f => p f.1) =
      (es.filter fun e => p e.1).flatMap fun e => e.2.toList.map fun v => (e.1, v) := by
  induction es with
  | nil => rfl
  | cons e es ih =>
    have hhead : (e.2.toList.map fun v => (e.1, v)).filter (fun f => p f.1) =
        if p e.1 then e.2.toList.map fun v => (e.1, v) else [] := by
      rw [List.filter_map]
      cases hp : p e.1 <;> simp [Function.comp_def, hp]
    rw [List.flatMap_cons, List.filter_append, ih, hhead]
    cases hp : p e.1 <;> simp [hp]

/-- Only a single value stands alone. -/
lemma HeaderValues.exists_one_iff {vs : List String} :
    (∃ v, HeaderValues.ofList vs = .one v) ↔ vs.length = 1 := by
  rcases vs with _ | ⟨v, _ | ⟨w, vs⟩⟩ <;> simp [HeaderValues.ofList]

namespace Exchange

variable (e : Exchange) (o : SnapshotOptions)

/-! ## Entries -/

/-- The recorded headers are grouped by name in any letter case. -/
lemma grouped_groupedHeaders : Grouped Ascii.sameText e.responseHeaders e.groupedHeaders :=
  grouped_groupBy Ascii.sameText_equivalence e.responseHeaders

/-- The entry of a group in a stub. -/
def groupEntry (g : String × List String) : String × HeaderValues :=
  (titleCase g.1, .ofList g.2)

/-- **The headers of a stub** are the groups that go into stubs; no two get the same spelling. -/
lemma perm_replyHeaders :
    e.replyHeaders.entries.Perm
      ((e.groupedHeaders.filter fun g => !isSnapshotExcluded g.1).map groupEntry) := by
  refine Dict.perm_ofList ?_
  -- names that are told apart in lower case are spelled differently
  have hapart := List.pairwise_map.1 e.grouped_groupedHeaders.apart
  rw [List.map_map, List.Nodup, List.pairwise_map]
  refine (hapart.filter _).imp fun {g g'} hgg heq => ?_
  have hsame : Ascii.sameText g.1 g'.1 = true := by
    rw [Ascii.sameText_iff, ← lower_titleCase, ← lower_titleCase g'.1]
    exact congrArg Ascii.lower heq
  rw [hgg] at hsame
  exact Bool.false_ne_true hsame

/-- **Each entry of a stub** is there for a recorded name that goes into stubs. -/
lemma exists_recorded_of_mem {entry : String × HeaderValues}
    (hentry : entry ∈ e.replyHeaders.entries) :
    ∃ h ∈ e.responseHeaders, isSnapshotExcluded h.1 = false ∧
      Ascii.sameText entry.1 h.1 = true := by
  rw [e.perm_replyHeaders.mem_iff] at hentry
  obtain ⟨g, hg, rfl⟩ := List.mem_map.1 hentry
  obtain ⟨hg, hkept⟩ := List.mem_filter.1 hg
  obtain ⟨h, hh, hname⟩ := List.mem_map.1
    (e.grouped_groupedHeaders.key_mem g.1 (List.mem_map_of_mem hg))
  rw [← hname, Bool.not_eq_true'] at hkept
  refine ⟨h, hh, hkept, ?_⟩
  rw [groupEntry, sameText_titleCase, ← hname, Ascii.sameText_self]

/-- No header of a stub has a name that does not go into stubs. -/
lemma isSnapshotExcluded_of_mem {h : String × HeaderValues} (hh : h ∈ e.replyHeaders.entries) :
    isSnapshotExcluded h.1 = false := by
  obtain ⟨g, -, hkept, hsame⟩ := e.exists_recorded_of_mem hh
  rwa [isSnapshotExcluded_congr hsame]

/-- The headers of a stub are those made from the recorded response. -/
lemma headers_reply : (e.reply o).headers = e.replyHeaders := by
  unfold reply
  split <;> rfl

/-- The status of a stub is the recorded one. -/
lemma status_reply : (e.reply o).status = e.status := by
  unfold reply
  split <;> rfl

/-- All headers of a stub are asked for. -/
lemma fields_reply :
    (e.reply o).fields =
      e.replyHeaders.entries.flatMap fun h => h.2.toList.map fun v => (h.1, v) := by
  have hall : e.replyHeaders.entries.filter (fun h => !isInternal h.1) =
      e.replyHeaders.entries := by
    refine List.filter_eq_self.2 fun h hh => ?_
    rw [isInternal_of_isSnapshotExcluded (e.isSnapshotExcluded_of_mem hh), Bool.not_false]
  rw [Reply.fields, headers_reply, hall]

/-! ## Values -/

/-- **The entries of a name**: none if it does not go into stubs, and otherwise its group. -/
lemma filter_replyHeaders (name : String) :
    (e.replyHeaders.entries.filter fun h => Ascii.sameText h.1 name) =
      if isSnapshotExcluded name then []
      else (e.groupedHeaders.filter fun g => Ascii.sameText g.1 name).map groupEntry := by
  have hperm : (e.replyHeaders.entries.filter fun h => Ascii.sameText h.1 name).Perm
      (((e.groupedHeaders.filter fun g => Ascii.sameText g.1 name).filter
        fun g => !isSnapshotExcluded g.1).map groupEntry) := by
    have hentries := e.perm_replyHeaders.filter fun h => Ascii.sameText h.1 name
    have hsame : (fun h : String × HeaderValues => Ascii.sameText h.1 name) ∘ groupEntry =
        fun g => Ascii.sameText g.1 name := funext fun g => sameText_titleCase g.1 name
    rwa [List.filter_map, hsame, List.filter_comm] at hentries
  rcases e.grouped_groupedHeaders.filter_cases Ascii.sameText_equivalence name with
    ⟨hnone, -⟩ | ⟨g, hg, hone, -⟩
  · rw [hnone] at hperm ⊢
    rw [List.Perm.eq_nil hperm, List.map_nil, ite_self]
  · rw [hone] at hperm ⊢
    rw [List.filter_singleton, isSnapshotExcluded_congr hg] at hperm
    cases hkept : isSnapshotExcluded name with
    | true =>
      rw [hkept] at hperm
      exact List.Perm.eq_nil hperm
    | false =>
      rw [hkept] at hperm
      exact List.perm_singleton.1 hperm

/-- The values that a stub asks for under a name, as far as they are legal. -/
lemma values_fields_reply (name : String) :
    (((e.reply o).fields.filter fun f => Ascii.sameText f.1 name).filter isLegalField).map
        Prod.snd =
      if isSnapshotExcluded name then []
      else ((e.responseHeaders.filter fun h => Ascii.sameText h.1 name).filter isLegalField).map
        Prod.snd := by
  rw [fields_reply, filter_flatMap_values fun n => Ascii.sameText n name, filter_replyHeaders]
  cases isSnapshotExcluded name with
  | true => rfl
  | false =>
    rw [if_neg Bool.false_ne_true, if_neg Bool.false_ne_true]
    rcases e.grouped_groupedHeaders.filter_cases Ascii.sameText_equivalence name with
      ⟨hnone, hrecorded⟩ | ⟨g, hg, hone, hvalues⟩
    · rw [hnone, hrecorded]
      rfl
    · -- a value is legal under the spelling of the group where it is under its own
      have hlegal : ∀ h ∈ e.responseHeaders.filter (fun h => Ascii.sameText h.1 name),
          isLegalField (titleCase g.1, h.2) = isLegalField h := by
        intro h hh
        have hsame : Ascii.sameText g.1 h.1 = true :=
          Ascii.sameText_equivalence.trans hg
            (Ascii.sameText_equivalence.symm (List.mem_filter.1 hh).2)
        rw [isLegalField, isLegalField, isFieldName_titleCase, isFieldName_congr hsame]
      have hgroup : ((groupEntry g).2.toList.map fun v => ((groupEntry g).1, v)) =
          (e.responseHeaders.filter fun h => Ascii.sameText h.1 name).map
            fun h => (titleCase g.1, h.2) := by
        rw [groupEntry, HeaderValues.toList_ofList, hvalues, List.map_map]
        rfl
      rw [hone, List.map_singleton, List.flatMap_singleton, hgroup, List.filter_map,
        Function.comp_def, List.filter_congr hlegal, List.map_map]
      rfl

/-- **What is served under a name**: nothing if it does not go into stubs, and otherwise the legal
values that have been recorded under it, in their order. -/
lemma values_serve_reply (name : String) :
    ((e.reply o).serve.headers.entries.filter fun h => Ascii.sameText h.1 name).map Prod.snd =
      if isSnapshotExcluded name then []
      else ((e.responseHeaders.filter fun h => Ascii.sameText h.1 name).filter isLegalField).map
        fun h => Utf8.encode h.2 := by
  have hsame : (fun h : String × Bytes => Ascii.sameText h.1 name) ∘ fieldEntry =
      fun f => Ascii.sameText f.1 name := funext fun f => Ascii.sameText_lower f.1 name
  have hvalues := congrArg (List.map Utf8.encode) (e.values_fields_reply o name)
  rw [List.map_map, apply_ite (List.map Utf8.encode), List.map_nil, List.map_map] at hvalues
  rw [Reply.entries_serve, List.filter_map, hsame, List.filter_comm, List.map_map]
  exact hvalues

/-! ## Names and their values -/

/-- The values that have been recorded under a name, in whatever letter case, in the order of
arrival. -/
def recordedValues (name : String) : List String :=
  (e.responseHeaders.filter fun h => Ascii.sameText h.1 name).map Prod.snd

/-- **A recorded name that goes into stubs** has a single entry there, with all its values. -/
lemma filter_replyHeaders_of_recorded {h : String × String} (hh : h ∈ e.responseHeaders)
    (hkept : isSnapshotExcluded h.1 = false) :
    ∃ key, (e.replyHeaders.entries.filter fun g => Ascii.sameText g.1 h.1) =
      [(key, .ofList (e.recordedValues h.1))] := by
  rw [filter_replyHeaders, if_neg (by rw [hkept]; exact Bool.false_ne_true)]
  rcases e.grouped_groupedHeaders.filter_cases Ascii.sameText_equivalence h.1 with
    ⟨-, hnone⟩ | ⟨g, -, hone, hvalues⟩
  · exact absurd (Ascii.sameText_self h.1) (List.filter_eq_nil_iff.1 hnone h hh)
  · refine ⟨titleCase g.1, ?_⟩
    rw [hone, List.map_singleton, groupEntry, hvalues, recordedValues]

/-- **No value is lost.** For each recorded name that goes into stubs, the stub of an exchange has a
single header with this name in any letter case. Its values are all that have been recorded under
the name, in the order of arrival, and they are a plain text exactly if there is a single one. The
stub has no other header.

**Proof sketch.** A group holds all values of its name, and groups are apart. The spelling of
exported stubs changes the case of letters only, so it never puts two groups under one name. -/
theorem headers_keep_values :
    (∀ h ∈ e.responseHeaders, isSnapshotExcluded h.1 = false →
      ∃ entry, ((e.toStub o).response.headers.entries.filter
            fun g => Ascii.sameText g.1 h.1) = [entry] ∧
          entry.2.toList = e.recordedValues h.1 ∧
          ((∃ v, entry.2 = .one v) ↔ (e.recordedValues h.1).length = 1)) ∧
    ∀ entry ∈ (e.toStub o).response.headers.entries,
      ∃ h ∈ e.responseHeaders, isSnapshotExcluded h.1 = false ∧
        Ascii.sameText entry.1 h.1 = true := by
  have hheaders : (e.toStub o).response.headers = e.replyHeaders := e.headers_reply o
  rw [hheaders]
  refine ⟨fun h hh hkept => ?_, fun entry => e.exists_recorded_of_mem⟩
  obtain ⟨key, hkey⟩ := e.filter_replyHeaders_of_recorded hh hkept
  exact ⟨_, hkey, HeaderValues.toList_ofList _, HeaderValues.exists_one_iff⟩

/-- A response with a header in three spellings, another one, and one that does not go into
stubs. -/
def mixedSpellings : Exchange :=
  ⟨"GET", "/", [], 200, [("x-Trace-id", "1"), ("etag", "e"), ("X-TRACE-ID", "2"), ("DATE", "d"),
    ("X-Trace-Id", "1")], []⟩

/-- All three values are kept under one name. -/
theorem headers_keep_values_mixedSpellings :
    isSnapshotExcluded "x-Trace-id" = false ∧
    ∃ entry, ((mixedSpellings.toStub ⟨false, [], false, false⟩).response.headers.entries.filter
        fun g => Ascii.sameText g.1 "x-Trace-id") = [entry] ∧
      entry.2.toList = ["1", "2", "1"] ∧ ¬ ∃ v, entry.2 = .one v := by
  have hkept : isSnapshotExcluded "x-Trace-id" = false := by decide
  have hrecorded : mixedSpellings.recordedValues "x-Trace-id" = ["1", "2", "1"] := by decide
  obtain ⟨entry, hentry, hvalues, hone⟩ :=
    (headers_keep_values mixedSpellings ⟨false, [], false, false⟩).1 ("x-Trace-id", "1") (by decide)
      hkept
  rw [hrecorded] at hvalues hone
  exact ⟨hkept, entry, hentry, hvalues, fun h => absurd (hone.1 h) (by decide)⟩

end Exchange

end HttpStub
