import HttpStub.Proofs.Http.Header
import HttpStub.Proofs.Json.Decoded
import HttpStub.Server.Serve

set_option autoImplicit false

/-!
# Headers that are sent on

Of the headers of a request three are rewritten when it is sent on, as far as the new texts are
legal, and one is dropped. All others reach the backend as they have been received. Whether names
are the same does not depend on the case of letters.

## Main definitions

* `HttpStub.valuesUnder` — the values of a name in any letter case.
* `HttpStub.rewrittenFields` — the headers that are rewritten, with their new texts.
* `HttpStub.Headers.insertAll` — headers inserted one after the other.
* `HttpStub.SentFor` — what is sent on for some headers.

## Main results

* `HttpStub.Headers.values_insert`, `HttpStub.Headers.values_remove` — what changes do to values.
* `HttpStub.Headers.insertAll_insertAll` — inserting the same headers again changes nothing.
* `HttpStub.sentFor_addressedTo` — what is sent on, for all headers that can be received.
-/

namespace HttpStub

/-- The values of a name among some headers, in their order. The name is in any letter case. -/
def valuesUnder (name : String) (fs : List (String × Bytes)) : List Bytes :=
  (fs.filter fun f => Ascii.sameText f.1 name).map Prod.snd

namespace Headers

variable {h : Headers} {fs : List (String × String)} {f : String × String} {name : String}

/-! ## Values after a change -/

/-- One more header adds a value to its name, and leaves all other names. -/
lemma values_append (h : Headers) (other : String) (v : Bytes) (name : String) :
    (h.append other v).values name =
      h.values name ++ if Ascii.sameText other name then [v] else [] := by
  by_cases hname : Ascii.lower other = Ascii.lower name
  · simp [values, append, Ascii.sameText, hname]
  · simp [values, append, Ascii.sameText, hname]

/-- A removal takes all values of its name, and leaves all other names. -/
lemma values_remove (h : Headers) (other name : String) :
    (h.remove other).values name = if Ascii.sameText other name then [] else h.values name := by
  by_cases hname : Ascii.lower other = Ascii.lower name
  · simp [values, remove, Ascii.sameText, hname]
  · have hother : ∀ e : String × Bytes,
        (e.1 == Ascii.lower name && e.1 != Ascii.lower other) = (e.1 == Ascii.lower name) := by
      intro e
      by_cases he : e.1 = Ascii.lower name
      · simp [he, Ne.symm hname]
      · simp [he]
    simp [values, remove, Ascii.sameText, hname, List.filter_filter, hother]

/-- **An insertion** replaces all values of its name, and leaves all others. -/
lemma values_insert (h : Headers) (other : String) (v : Bytes) (name : String) :
    (h.insert other v).values name =
      if Ascii.sameText other name then [v] else h.values name := by
  rw [insert, values_append, values_remove]
  split <;> simp

/-! ## Insertions one after the other -/

/-- Headers inserted one after the other. -/
def insertAll (h : Headers) (fs : List (String × String)) : Headers :=
  fs.foldl (fun h f => h.insert f.1 (Utf8.encode f.2)) h

/-- One more header is inserted after those before it. -/
lemma insertAll_append_singleton (h : Headers) (fs : List (String × String))
    (f : String × String) :
    h.insertAll (fs ++ [f]) = (h.insertAll fs).insert f.1 (Utf8.encode f.2) := by
  rw [insertAll, List.foldl_append]
  rfl

/-- A name that nothing is inserted for keeps its values. -/
lemma values_insertAll_of_not_mem (hname : ∀ f ∈ fs, Ascii.sameText f.1 name = false) :
    (h.insertAll fs).values name = h.values name := by
  induction fs using List.reverseRecOn with
  | nil => rfl
  | append_singleton fs f ih =>
    rw [List.forall_mem_append, List.forall_mem_singleton] at hname
    rw [insertAll_append_singleton, values_insert, hname.2]
    exact ih hname.1

/-- No two of the headers have the same name, in any letter case. -/
def Apart (fs : List (String × String)) : Prop :=
  (fs.map fun f => Ascii.lower f.1).Nodup

/-- A name that is inserted once has the inserted value alone. -/
lemma values_insertAll_of_mem (hfs : Apart fs) (hf : f ∈ fs)
    (hname : Ascii.sameText f.1 name = true) :
    (h.insertAll fs).values name = [Utf8.encode f.2] := by
  induction fs using List.reverseRecOn with
  | nil => cases hf
  | append_singleton fs g ih =>
    rw [insertAll_append_singleton, values_insert]
    rw [Apart, List.map_append, List.nodup_append] at hfs
    rcases List.mem_append.1 hf with hf | hf
    · -- the last header has another name
      have hne : Ascii.lower f.1 ≠ Ascii.lower g.1 :=
        hfs.2.2 _ (List.mem_map_of_mem hf) _ (List.mem_singleton_self _)
      have hother : ¬ Ascii.sameText g.1 name = true := by
        intro hg
        exact hne ((Ascii.sameText_iff.1 hname).trans (Ascii.sameText_iff.1 hg).symm)
      rw [if_neg hother]
      exact ih hfs.1 hf
    · obtain rfl := List.mem_singleton.1 hf
      rw [if_pos hname]

/-- **An insertion** takes all entries of its name and puts the new one at the end. -/
lemma entries_insert (h : Headers) (other : String) (v : Bytes) :
    (h.insert other v).entries =
      (h.entries.filter fun e => e.1 != Ascii.lower other) ++ [(Ascii.lower other, v)] :=
  rfl

/-- **The headers after insertions** are those with other names, and then the new ones. -/
lemma entries_insertAll (hfs : Apart fs) (h : Headers) :
    (h.insertAll fs).entries =
      (h.entries.filter fun e => e.1 ∉ fs.map fun f => Ascii.lower f.1) ++
        fs.map fieldEntry := by
  induction fs using List.reverseRecOn with
  | nil => simp [insertAll]
  | append_singleton fs f ih =>
    rw [Apart, List.map_append, List.nodup_append] at hfs
    have hnew : (fs.map fieldEntry).filter (fun e => e.1 != Ascii.lower f.1) =
        fs.map fieldEntry := by
      refine List.filter_eq_self.2 fun e he => ?_
      obtain ⟨g, hg, rfl⟩ := List.mem_map.1 he
      exact bne_iff_ne.2 (hfs.2.2 _ (List.mem_map_of_mem hg) _ (List.mem_singleton_self _))
    rw [insertAll_append_singleton, entries_insert, ih hfs.1, List.filter_append, hnew,
      List.filter_filter, List.append_assoc]
    have hkept : (fun e : String × Bytes =>
          e.1 != Ascii.lower f.1 && decide (e.1 ∉ fs.map fun f => Ascii.lower f.1)) =
        fun e => decide (e.1 ∉ (fs ++ [f]).map fun f => Ascii.lower f.1) := by
      funext e
      rw [Bool.eq_iff_iff]
      simp [and_comm]
    rw [hkept, List.map_append (f := fieldEntry)]
    rfl

/-- **Inserting the same headers again** changes nothing. -/
lemma insertAll_insertAll (hfs : Apart fs) (h : Headers) :
    (h.insertAll fs).insertAll fs = h.insertAll fs := by
  have hnone : (fs.map fieldEntry).filter (fun e => e.1 ∉ fs.map fun f => Ascii.lower f.1) =
      [] := by
    refine List.filter_eq_nil_iff.2 fun e he => ?_
    obtain ⟨f, hf, rfl⟩ := List.mem_map.1 he
    have hname : (fieldEntry f).1 ∈ fs.map fun f => Ascii.lower f.1 :=
      List.mem_map.2 ⟨f, hf, rfl⟩
    exact fun hother => of_decide_eq_true hother hname
  have hentries : ((h.insertAll fs).insertAll fs).entries = (h.insertAll fs).entries := by
    rw [entries_insertAll hfs, entries_insertAll hfs, List.filter_append, hnone,
      List.filter_filter, List.append_nil]
    simp
  exact congrArg mk hentries

/-! ## Names in lower case -/

/-- All names are in lower case. -/
def Lowered (h : Headers) : Prop :=
  ∀ e ∈ h.entries, Ascii.lower e.1 = e.1

/-- If names are in lower case, the values of a name are those that stand under it in any letter
case. -/
lemma Lowered.values_eq (hlow : h.Lowered) (name : String) :
    h.values name = valuesUnder name h.entries := by
  refine congrArg (List.map Prod.snd) (List.filter_congr fun e he => ?_)
  rw [Ascii.sameText, hlow e he]

/-- A removal keeps names in lower case. -/
lemma Lowered.remove (hlow : h.Lowered) (name : String) : (h.remove name).Lowered :=
  fun e he => hlow e (List.mem_of_mem_filter he)

/-- One more header keeps names in lower case. -/
lemma Lowered.append (hlow : h.Lowered) (name : String) (v : Bytes) :
    (h.append name v).Lowered := by
  intro e he
  rcases List.mem_append.1 he with he | he
  · exact hlow e he
  · obtain rfl := List.mem_singleton.1 he
    exact Ascii.lower_lower name

/-- Insertions keep names in lower case. -/
lemma Lowered.insertAll (hlow : h.Lowered) (fs : List (String × String)) :
    (h.insertAll fs).Lowered := by
  induction fs using List.reverseRecOn with
  | nil => exact hlow
  | append_singleton fs f ih =>
    rw [insertAll_append_singleton]
    exact (ih.remove f.1).append f.1 _

/-- Headers that are added come at the end, in their order. -/
lemma entries_foldl_append (received : List (String × Bytes)) (h : Headers) :
    (received.foldl (fun h e => h.append e.1 e.2) h).entries =
      h.entries ++ received.map fun f => (Ascii.lower f.1, f.2) := by
  induction received generalizing h with
  | nil => simp
  | cons f received ih =>
    rw [List.foldl_cons, ih, append, List.map_cons, List.append_assoc, List.singleton_append]

/-- Received headers are all kept, with their names in lower case. -/
lemma entries_ofList (received : List (String × Bytes)) :
    (ofList received).entries = received.map fun f => (Ascii.lower f.1, f.2) :=
  entries_foldl_append received empty

/-- Received headers are kept under names in lower case. -/
lemma lowered_ofList (received : List (String × Bytes)) : (ofList received).Lowered := by
  intro e he
  rw [entries_ofList] at he
  obtain ⟨f, -, rfl⟩ := List.mem_map.1 he
  exact Ascii.lower_lower f.1

/-- **Headers that have been received** keep their values, under names in any letter case. -/
lemma values_ofList (received : List (String × Bytes)) (name : String) :
    (ofList received).values name = valuesUnder name received := by
  have hsame : (fun e : String × Bytes => Ascii.sameText e.1 name) ∘
      (fun f : String × Bytes => (Ascii.lower f.1, f.2)) = fun f => Ascii.sameText f.1 name :=
    funext fun f => Ascii.sameText_lower f.1 name
  rw [(lowered_ofList received).values_eq, entries_ofList, valuesUnder, List.filter_map, hsame,
    List.map_map]
  rfl

end Headers

/-! ## The headers that are rewritten -/

/-- The headers that are rewritten, with their new texts: those that speak of the backend, if it has
a name and as far as their texts are legal, and the one that asks for a packing. -/
def rewrittenFields (host : Option String) (refererPath : String) : List (String × String) :=
  (match host with
    | none => []
    | some b =>
      if b = "" then []
      else
        [("origin", b), ("referer", b ++ refererPath)].filter fun f =>
          isFieldValue (Utf8.encode f.2))
    ++ [("accept-encoding", "gzip")]

section Rewritten

variable {host : Option String} {refererPath : String}

/-- **The headers that are rewritten**: the packing always, the other two if there is a backend with
a name and the new text is legal. -/
lemma mem_rewrittenFields_iff {f : String × String} :
    f ∈ rewrittenFields host refererPath ↔
      f = ("accept-encoding", "gzip") ∨
        ∃ b, host = some b ∧ b ≠ "" ∧ isFieldValue (Utf8.encode f.2) = true ∧
          (f = ("origin", b) ∨ f = ("referer", b ++ refererPath)) := by
  unfold rewrittenFields
  cases host with
  | none => simp
  | some b =>
    by_cases hb : b = ""
    · simp [hb]
    · simp [hb, and_comm, or_comm]

/-- They have different names. -/
lemma apart_rewrittenFields (host : Option String) (refererPath : String) :
    Headers.Apart (rewrittenFields host refererPath) := by
  have hnames : ∀ b, Headers.Apart ([("origin", b), ("referer", b ++ refererPath)] ++
      [("accept-encoding", "gzip")]) := by
    intro b
    show [Ascii.lower "origin", Ascii.lower "referer", Ascii.lower "accept-encoding"].Nodup
    decide
  unfold rewrittenFields
  cases host with
  | none => exact List.nodup_singleton _
  | some b =>
    dsimp only
    by_cases hb : b = ""
    · rw [if_pos hb]
      exact List.nodup_singleton _
    · rw [if_neg hb]
      exact ((List.filter_sublist.append_right _).map _).nodup (hnames b)

/-- Headers are addressed to a backend by inserting those that are rewritten. -/
lemma Headers.addressedTo_eq (host : Option String) (refererPath : String) (h : Headers) :
    h.addressedTo host refererPath = h.insertAll (rewrittenFields host refererPath) := by
  unfold addressedTo rewrittenFields
  cases host with
  | none => rfl
  | some b =>
    by_cases hb : b = ""
    · simp [hb, insertAll]
    · cases horigin : isFieldValue (Utf8.encode b) <;>
        cases hreferer : isFieldValue (Utf8.encode (b ++ refererPath)) <;>
        simp [hb, horigin, hreferer, insertIfLegal, insertAll]

end Rewritten

/-! ## The headers that are sent on -/

/-- What is sent on for headers that have been received, to a backend that may have a name. -/
structure SentFor (received : List (String × Bytes)) (host : Option String) (refererPath : String)
    (sent : Headers) : Prop where
  noHost : valuesUnder "host" sent.entries = []
  packing : valuesUnder "accept-encoding" sent.entries = [Utf8.encode "gzip"]
  origin : ∀ b, host = some b → b ≠ "" → isFieldValue (Utf8.encode b) = true →
    valuesUnder "origin" sent.entries = [Utf8.encode b]
  referer : ∀ b, host = some b → b ≠ "" → isFieldValue (Utf8.encode (b ++ refererPath)) = true →
    valuesUnder "referer" sent.entries = [Utf8.encode (b ++ refererPath)]
  originKept : (∀ b, host = some b → b ≠ "" → isFieldValue (Utf8.encode b) = false) →
    valuesUnder "origin" sent.entries = valuesUnder "origin" received
  refererKept :
    (∀ b, host = some b → b ≠ "" → isFieldValue (Utf8.encode (b ++ refererPath)) = false) →
      valuesUnder "referer" sent.entries = valuesUnder "referer" received
  others : ∀ name, (∀ other ∈ ["host", "accept-encoding", "origin", "referer"],
      Ascii.sameText other name = false) →
    valuesUnder name sent.entries = valuesUnder name received

section Sent

variable {received : List (String × Bytes)} {host : Option String} {refererPath : String}
  {f : String × String} {name : String}

/-- The values that are sent on are those after the insertions, but for the host. -/
lemma valuesUnder_sent (received : List (String × Bytes)) (host : Option String)
    (refererPath name : String) :
    valuesUnder name (((Headers.ofList received).addressedTo host refererPath).remove
        "host").entries =
      if Ascii.sameText "host" name then []
      else ((Headers.ofList received).insertAll (rewrittenFields host refererPath)).values
        name := by
  have hlow := (Headers.lowered_ofList received).insertAll (rewrittenFields host refererPath)
  rw [Headers.addressedTo_eq, ← (hlow.remove "host").values_eq, Headers.values_remove]

/-- A header that is rewritten is sent on with its new text alone. -/
lemma valuesUnder_sent_of_mem (hf : f ∈ rewrittenFields host refererPath) :
    valuesUnder f.1 (((Headers.ofList received).addressedTo host refererPath).remove
      "host").entries = [Utf8.encode f.2] := by
  have hhost : Ascii.sameText "host" f.1 = false := by
    have hname : f.1 ∈ ["accept-encoding", "origin", "referer"] := by
      rcases mem_rewrittenFields_iff.1 hf with rfl | ⟨b, -, -, -, rfl | rfl⟩ <;> simp
    have hnone : ∀ name ∈ ["accept-encoding", "origin", "referer"],
        Ascii.sameText "host" name = false := by
      decide
    exact hnone f.1 hname
  rw [valuesUnder_sent, hhost, if_neg Bool.false_ne_true]
  exact Headers.values_insertAll_of_mem (apart_rewrittenFields _ _) hf (Ascii.sameText_self _)

/-- A header that is not rewritten is sent on with the values that it was received with, unless it
is the host. -/
lemma valuesUnder_sent_of_not_mem (hhost : Ascii.sameText "host" name = false)
    (hname : ∀ f ∈ rewrittenFields host refererPath, Ascii.sameText f.1 name = false) :
    valuesUnder name (((Headers.ofList received).addressedTo host refererPath).remove
      "host").entries = valuesUnder name received := by
  rw [valuesUnder_sent, hhost, if_neg Bool.false_ne_true,
    Headers.values_insertAll_of_not_mem hname, Headers.values_ofList]

/-- **What is sent on** for headers that have been received. -/
lemma sentFor_of_received (received : List (String × Bytes)) (host : Option String)
    (refererPath : String) :
    SentFor received host refererPath
      (((Headers.ofList received).addressedTo host refererPath).remove "host") where
  noHost := by
    rw [valuesUnder_sent, Ascii.sameText_self, if_pos rfl]
  packing :=
    valuesUnder_sent_of_mem (f := ("accept-encoding", "gzip"))
      (mem_rewrittenFields_iff.2 (.inl rfl))
  origin b hb hne hlegal :=
    valuesUnder_sent_of_mem (f := ("origin", b))
      (mem_rewrittenFields_iff.2 (.inr ⟨b, hb, hne, hlegal, .inl rfl⟩))
  referer b hb hne hlegal :=
    valuesUnder_sent_of_mem (f := ("referer", b ++ refererPath))
      (mem_rewrittenFields_iff.2 (.inr ⟨b, hb, hne, hlegal, .inr rfl⟩))
  originKept hkept := by
    refine valuesUnder_sent_of_not_mem (by decide) fun f hf => ?_
    rcases mem_rewrittenFields_iff.1 hf with rfl | ⟨b, hb, hne, hlegal, rfl | rfl⟩
    · decide
    · exact absurd hlegal (Bool.not_eq_true _ ▸ hkept b hb hne)
    · show Ascii.sameText "referer" "origin" = false
      decide
  refererKept hkept := by
    refine valuesUnder_sent_of_not_mem (by decide) fun f hf => ?_
    rcases mem_rewrittenFields_iff.1 hf with rfl | ⟨b, hb, hne, hlegal, rfl | rfl⟩
    · decide
    · show Ascii.sameText "origin" "referer" = false
      decide
    · exact absurd hlegal (Bool.not_eq_true _ ▸ hkept b hb hne)
  others name hname := by
    refine valuesUnder_sent_of_not_mem (hname "host" (by simp)) fun f hf => ?_
    rcases mem_rewrittenFields_iff.1 hf with rfl | ⟨b, -, -, -, rfl | rfl⟩
    · exact hname _ (by simp)
    · exact hname _ (by simp)
    · exact hname _ (by simp)

end Sent

/-- A request goes to the backend with all headers that it has, but for the host. -/
lemma Backend.headers_of_prepare {b : Backend} {r : Request} {o : Outgoing}
    (h : b.prepare r = .ok o) : o.headers = r.headers.remove "host" := by
  unfold prepare at h
  dsimp only at h
  split_ifs at h
  split at h
  · cases h
  · split_ifs at h
    all_goals
      obtain rfl := Except.ok.inj h
      rfl

/-- What a server sends on has the headers of the request, addressed to the backend and without the
host. -/
lemma Server.headers_of_outgoing? {s : Server} {r : Request} {o : Outgoing}
    (h : s.outgoing? r = some o) :
    o.headers = (r.headers.addressedTo (s.settings.backend?.map (·.base))
      s.settings.refererPath).remove "host" := by
  unfold outgoing? at h
  split_ifs at h
  obtain ⟨b, -, hb⟩ := Option.bind_eq_some_iff.1 h
  rw [Backend.headers_of_prepare (Json.toOption_eq_some_iff.1 hb), addressed]

/-- **Three headers are rewritten, and the others are kept**, whatever headers have been received.
If the backend has a name, `Origin` is the name and `Referer` the name with the path, each where it
is legal and as it has been received otherwise; there is one `Accept-Encoding`, for the one format,
and no `Host`. Under every other name are the values that have been received, in their order.
Fitting the headers to the backend again changes nothing. So it is for each request that a server
sends on, with the name and the path of its settings.

**Proof sketch.** The new headers have names that are apart, and an insertion leaves the values of
all other names. What has been inserted is at the end, so it is put there again. -/
theorem sentFor_addressedTo :
    (∀ received host refererPath,
      SentFor received host refererPath
        (((Headers.ofList received).addressedTo host refererPath).remove "host")) ∧
    (∀ (h : Headers) host refererPath,
      (h.addressedTo host refererPath).addressedTo host refererPath =
        h.addressedTo host refererPath) ∧
    ∀ (s : Server) (r : Request) (o : Outgoing) received,
      r.headers = .ofList received → s.outgoing? r = some o →
        SentFor received (s.settings.backend?.map (·.base)) s.settings.refererPath o.headers := by
  refine ⟨sentFor_of_received, fun h host refererPath => ?_, ?_⟩
  · simp only [Headers.addressedTo_eq]
    exact Headers.insertAll_insertAll (apart_rewrittenFields _ _) h
  · intro s r o received hr ho
    rw [Server.headers_of_outgoing? ho, hr]
    exact sentFor_of_received _ _ _

/-- Headers with a name in two spellings, and some that do not reach the backend. -/
def cookieFields : List (String × Bytes) :=
  [("HOST", Utf8.encode "a"), ("Cookie", Utf8.encode "1"), ("ORIGIN", Utf8.encode "a"),
    ("accept-Encoding", Utf8.encode "br"), ("Referer", Utf8.encode "b"),
    ("cookie", Utf8.encode "2")]

/-- A request with these headers. -/
def cookieRequest : Request :=
  ⟨"GET", "/", .ofList cookieFields, []⟩

/-- A server that sends requests on; no text with its path is legal. -/
def breakServer : Server :=
  .ofSettings { Settings.default with
    mode := .proxy
    proxyHost := some "http://[::1]/"
    refererPath := "\n" }

/-- Both cookies reach the backend; `Origin` is rewritten, and `Referer` is not. -/
theorem sentFor_addressedTo_cookies :
    cookieRequest.headers = .ofList cookieFields ∧
      ∃ o, breakServer.outgoing? cookieRequest = some o ∧
        SentFor cookieFields (some "http://[::1]") "\n" o.headers ∧
        valuesUnder "COOKIE" o.headers.entries = [Utf8.encode "1", Utf8.encode "2"] ∧
        valuesUnder "origin" o.headers.entries = [Utf8.encode "http://[::1]"] ∧
        valuesUnder "referer" o.headers.entries = [Utf8.encode "b"] := by
  have hsome : (breakServer.outgoing? cookieRequest).isSome = true := by decide +kernel
  obtain ⟨o, ho⟩ := Option.isSome_iff_exists.1 hsome
  have hsent := sentFor_addressedTo.2.2 breakServer cookieRequest o cookieFields rfl ho
  refine ⟨rfl, o, ho, hsent, ?_, ?_, ?_⟩
  · exact (hsent.others "COOKIE" (by decide)).trans (by decide)
  · exact hsent.origin "http://[::1]" rfl (by decide) (by decide)
  · have hillegal : ∀ b, some "http://[::1]" = some b → b ≠ "" →
        isFieldValue (Utf8.encode (b ++ "\n")) = false := by
      rintro b ⟨⟩ -
      decide
    exact (hsent.refererKept hillegal).trans (by decide)

end HttpStub
