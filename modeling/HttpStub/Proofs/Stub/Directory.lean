import HttpStub.Proofs.Exchange.Order
import HttpStub.Proofs.Text.Octets
import HttpStub.Proofs.Text.Split
import HttpStub.Stub.Files
import Mathlib.Data.List.Forall2

set_option autoImplicit false

/-!
# Directories of stubs

The stubs of a directory are those of its files, one file after the other. The order of the files is
that of the octets of their names, in whatever order the directory lists them; and a damaged file
takes nothing away but its own stubs.

## Main definitions

* `HttpStub.IsStubFile` — the entries of a directory that are loaded.
* `HttpStub.Holds`, `HttpStub.Adds` — the stubs in a file, and what they add to those of its
  directory.
* `HttpStub.Concatenates` — the stubs of some files, one file after the other.

## Main results

* `HttpStub.extension?_eq_json_iff` — the names that count.
* `HttpStub.stubsOfEntries_eq` — what is loaded, and in which order.
* `HttpStub.stubsOfEntries_perm` — the order of the entries does not matter.
* `HttpStub.Disk.stubsOfDirectory_by_name` — all of it for the directory of a path, with damage.
-/

namespace HttpStub

/-! ## Names -/

/-- The names with the extension `json` have something in front of it. -/
lemma extension?_eq_json_iff {name : String} :
    extension? name = some "json" ↔ ∃ stem, stem ≠ "" ∧ name = stem ++ ".json" := by
  constructor
  · intro h
    unfold extension? at h
    split at h
    · next after before hcut =>
      obtain ⟨hname, -⟩ := Text.cut?_eq_some_iff.1 hcut
      split_ifs at h with hbefore
      have hafter : after.reverse = "json".toList := by
        rw [← Option.some.inj h, String.toList_ofList]
      have hlist : name.toList = before.reverse ++ ".json".toList := by
        rw [← List.reverse_reverse name.toList, hname, List.reverse_append, hafter]
        simp
      refine ⟨String.ofList before.reverse, ?_, ?_⟩
      · simpa using hbefore
      · rw [← String.toList_inj, String.toList_append, String.toList_ofList, hlist]
    · cases h
  · rintro ⟨stem, hstem, rfl⟩
    have hcut : Text.cut? '.' (stem ++ ".json").toList.reverse =
        some ("nosj".toList, stem.toList.reverse) := by
      rw [Text.cut?_eq_some_iff, String.toList_append, List.reverse_append]
      exact ⟨rfl, by decide⟩
    have hbefore : stem.toList.reverse.isEmpty = false := by simpa using hstem
    rw [extension?, hcut]
    dsimp only
    rw [hbefore]
    rfl

/-! ## Files -/

/-- An entry that is loaded: a file, no directory, with the extension `json`. -/
def IsStubFile (e : String × FileTree) : Prop :=
  (∃ content, e.2 = .file content) ∧ ∃ stem, stem ≠ "" ∧ e.1 = stem ++ ".json"

/-- The file of an entry holds these stubs: its path can be followed, it can be read, and its octets
are those of a text that describes a document with these stubs. -/
def Holds (dir : String) (e : String × FileTree) (stubs : List Stub) : Prop :=
  (joinPath dir e.1).utf8ByteSize < Disk.maxPathSize ∧
    ∃ text d, e.2 = .file (.ok (Utf8.encode text)) ∧ Document.ofText text = .ok d ∧ d.stubs = stubs

/-- What the file of an entry adds to the stubs of its directory: those that it holds, and nothing
if it is damaged. -/
def Adds (dir : String) (e : String × FileTree) (stubs : List Stub) : Prop :=
  Holds dir e stubs ∨ stubs = [] ∧ ∀ others, ¬ Holds dir e others

/-- The stubs of some files, one file after the other. -/
def Concatenates (dir : String) (files : List (String × FileTree)) (stubs : List Stub) : Prop :=
  ∃ parts, List.Forall₂ (Adds dir) files parts ∧ stubs = parts.flatten

/-- The stubs that the file of an entry adds. -/
def addedStubs (dir : String) (e : String × FileTree) : List Stub :=
  match e.2 with
  | .file content =>
    if (joinPath dir e.1).utf8ByteSize < Disk.maxPathSize then
      (stubsOfFile (joinPath dir e.1) (content.bind textOf)).toOption.getD []
    else []
  | .directory _ => []

section Files

variable {dir : String} {e : String × FileTree} {files : List (String × FileTree)}
  {stubs others : List Stub}

/-- A file can be read as a text if it holds the octets of this text. -/
lemma bind_textOf_eq_ok_iff {content : Except FileError Bytes} {text : String} :
    content.bind textOf = .ok text ↔ content = .ok (Utf8.encode text) := by
  cases content with
  | error cause => simp [Except.bind]
  | ok octets =>
    rw [Except.ok.injEq, ← Utf8.decode?_eq_some_iff]
    simp only [Except.bind, textOf]
    cases Utf8.decode? octets with
    | none => simp
    | some s => simp

/-- A file leads to stubs if it can be read and its text describes a document with them. -/
lemma stubsOfFile_eq_ok_iff {path : String} {read : Except FileError String} :
    stubsOfFile path read = .ok stubs ↔
      ∃ text d, read = .ok text ∧ Document.ofText text = .ok d ∧ d.stubs = stubs := by
  cases read with
  | error cause => simp [stubsOfFile]
  | ok text =>
    rw [stubsOfFile]
    cases hd : Document.ofText text with
    | error cause => simp [hd]
    | ok d => simp [hd]

/-- **What a file holds** is what reading it brings, if its path is not too long. -/
lemma holds_file_iff {name : String} {content : Except FileError Bytes} :
    Holds dir (name, .file content) stubs ↔
      (joinPath dir name).utf8ByteSize < Disk.maxPathSize ∧
        stubsOfFile (joinPath dir name) (content.bind textOf) = .ok stubs := by
  simp only [Holds, stubsOfFile_eq_ok_iff, bind_textOf_eq_ok_iff, FileTree.file.injEq]

/-- A directory holds no stubs itself. -/
lemma not_holds_directory {name : String} {es : List (String × FileTree)} :
    ¬ Holds dir (name, .directory es) stubs := by
  rintro ⟨-, text, d, hfile, -⟩
  cases hfile

/-- **A file adds one list of stubs**: the one that it holds, or none. -/
lemma adds_iff : Adds dir e stubs ↔ addedStubs dir e = stubs := by
  obtain ⟨name, tree⟩ := e
  cases tree with
  | directory es => simp [Adds, addedStubs, not_holds_directory, eq_comm]
  | file content =>
    simp only [Adds, addedStubs, holds_file_iff]
    by_cases hshort : (joinPath dir name).utf8ByteSize < Disk.maxPathSize
    · rw [if_pos hshort]
      cases stubsOfFile (joinPath dir name) (content.bind textOf) with
      | error cause => simp [hshort, Except.toOption, eq_comm]
      | ok held => simp [hshort, Except.toOption, eq_comm]
    · simp [hshort, eq_comm]

/-- **Files add their stubs one after the other.** -/
lemma concatenates_iff : Concatenates dir files stubs ↔ files.flatMap (addedStubs dir) = stubs := by
  have hparts : ∀ parts, List.Forall₂ (Adds dir) files parts ↔
      files.map (addedStubs dir) = parts := by
    intro parts
    have hadds : Adds dir = fun e stubs => addedStubs dir e = stubs :=
      funext fun e => funext fun stubs => propext adds_iff
    rw [hadds, ← List.forall₂_map_left_iff, List.forall₂_eq_eq_eq]
  rw [Concatenates, List.flatMap_def]
  constructor
  · rintro ⟨parts, h, rfl⟩
    rw [(hparts parts).1 h]
  · rintro rfl
    exact ⟨_, (hparts _).2 rfl, rfl⟩

end Files

/-! ## Directories -/

section Entries

variable {dir : String} {entries others : List (String × FileTree)}

/-- The entry is loaded. -/
def isStubFile (e : String × FileTree) : Bool :=
  match e.2 with
  | .file _ => extension? e.1 == some "json"
  | .directory _ => false

/-- Files are told from directories and names by their extension, as they should be. -/
lemma isStubFile_iff {e : String × FileTree} : isStubFile e = true ↔ IsStubFile e := by
  obtain ⟨name, tree⟩ := e
  cases tree with
  | file content => simp [isStubFile, IsStubFile, extension?_eq_json_iff]
  | directory es => simp [isStubFile, IsStubFile]

/-- The name of the first entry does not come after that of the second one. -/
def nameBefore (a b : String × FileTree) : Bool :=
  decide (a.1 ≤ b.1)

/-- The entries that are loaded, in the order of their names. -/
def sortedFiles (entries : List (String × FileTree)) : List (String × FileTree) :=
  (entries.filter isStubFile).mergeSort nameBefore

/-- An entry is taken as a file exactly if it is one that is loaded. -/
lemma map_stubFile? (e : String × FileTree) :
    (stubFile? e).map (fun f => (f.1, FileTree.file f.2)) = Option.guard isStubFile e := by
  obtain ⟨name, tree⟩ := e
  cases tree with
  | directory _ => rfl
  | file content =>
    by_cases hname : extension? name = some "json" <;>
      simp [stubFile?, isStubFile, Option.guard, hname]

/-- The files that are loaded, as entries. -/
lemma map_stubFiles :
    (stubFiles entries).map (fun f => (f.1, FileTree.file f.2)) = sortedFiles entries := by
  have hfiles : (entries.filterMap stubFile?).map (fun f => (f.1, FileTree.file f.2)) =
      entries.filter isStubFile := by
    rw [List.map_filterMap, ← List.filterMap_eq_filter]
    exact List.filterMap_congr fun e _ => map_stubFile? e
  rw [stubFiles, List.map_mergeSort (s := nameBefore), hfiles, sortedFiles]
  exact fun _ _ _ _ => rfl

/-- The files that are loaded are entries, and no such entry is left out. -/
lemma mem_sortedFiles_iff {e : String × FileTree} :
    e ∈ sortedFiles entries ↔ e ∈ entries ∧ IsStubFile e := by
  rw [sortedFiles, List.mem_mergeSort, List.mem_filter, isStubFile_iff]

/-- **The files are in the order of their names**, which are different ones. -/
lemma pairwise_sortedFiles (distinct : (entries.map Prod.fst).Nodup) :
    (sortedFiles entries).Pairwise fun a b => a.1 < b.1 := by
  have htrans : ∀ a b c, nameBefore a b = true → nameBefore b c = true → nameBefore a c = true := by
    simp only [nameBefore, decide_eq_true_eq]
    exact fun _ _ _ hab hbc => hab.trans hbc
  have htotal : ∀ a b, (nameBefore a b || nameBefore b a) = true := by
    simp only [nameBefore, Bool.or_eq_true, decide_eq_true_eq]
    exact fun _ _ => le_total _ _
  have hle : (sortedFiles entries).Pairwise fun a b => a.1 ≤ b.1 :=
    (List.pairwise_mergeSort htrans htotal _).imp of_decide_eq_true
  have hne : (sortedFiles entries).Pairwise fun a b => a.1 ≠ b.1 := by
    have hfiles : (entries.filter isStubFile).Pairwise fun a b => a.1 ≠ b.1 :=
      (List.pairwise_map.1 distinct).sublist List.filter_sublist
    exact hfiles.perm (List.mergeSort_perm _ _).symm fun h => h.symm
  exact (hle.and hne).imp fun h => h.1.lt_of_ne h.2

/-- **The order of the entries does not matter.** -/
lemma sortedFiles_perm (distinct : (entries.map Prod.fst).Nodup) (h : others.Perm entries) :
    sortedFiles others = sortedFiles entries := by
  refine eq_of_increasing_key Prod.fst ?_ (pairwise_sortedFiles distinct) fun e => ?_
  · exact pairwise_sortedFiles ((h.map Prod.fst).nodup_iff.2 distinct)
  · rw [mem_sortedFiles_iff, mem_sortedFiles_iff, h.mem_iff]

/-- **The stubs that are loaded** are those of the files in the order of their names. -/
lemma stubsOfEntries_eq :
    (stubsOfEntries dir entries).1 = (sortedFiles entries).flatMap (addedStubs dir) := by
  rw [← map_stubFiles, stubsOfEntries, List.flatMap_map]
  dsimp only
  rw [List.flatMap_map]
  induction stubFiles entries with
  | nil => rfl
  | cons f fs ih =>
    rw [List.flatMap_cons, ← ih]
    by_cases hshort : (joinPath dir f.1).utf8ByteSize < Disk.maxPathSize
    · rw [List.filter_cons_of_pos (by simpa using hshort), List.flatMap_cons, addedStubs]
      simp only [if_pos hshort]
    · rw [List.filter_cons_of_neg (by simpa using hshort), addedStubs]
      simp only [if_neg hshort, List.nil_append]

/-- If names are different, the entries with another one in place of `e` are this one and those with
other names. -/
lemma mem_replace_iff {e x : String × FileTree} {tree : FileTree}
    {xs ys : List (String × FileTree)} (distinct : ((xs ++ e :: ys).map Prod.fst).Nodup) :
    x ∈ xs ++ (e.1, tree) :: ys ↔ x = (e.1, tree) ∨ x ∈ xs ++ e :: ys ∧ x.1 ≠ e.1 := by
  have hother : ∀ y ∈ xs ++ ys, y.1 ≠ e.1 := by
    have hnodup : (e.1 :: (xs ++ ys).map Prod.fst).Nodup := by
      rw [← List.map_cons]
      exact (List.perm_middle.map Prod.fst).nodup_iff.1 distinct
    intro y hy heq
    exact (List.nodup_cons.1 hnodup).1 (heq ▸ List.mem_map_of_mem hy)
  simp only [List.mem_append, List.mem_cons] at hother ⊢
  constructor
  · rintro (hx | rfl | hx)
    · exact .inr ⟨.inl hx, hother x (.inl hx)⟩
    · exact .inl rfl
    · exact .inr ⟨.inr (.inr hx), hother x (.inr hx)⟩
  · rintro (rfl | ⟨hx | rfl | hx, hne⟩)
    · exact .inr (.inl rfl)
    · exact .inl hx
    · exact absurd rfl hne
    · exact .inr (.inr hx)

/-- **A file in place of another one** stands where the other one stood. -/
lemma sortedFiles_replace {e : String × FileTree} {content : Except FileError Bytes}
    {xs ys before after : List (String × FileTree)}
    (distinct : ((xs ++ e :: ys).map Prod.fst).Nodup)
    (h : sortedFiles (xs ++ e :: ys) = before ++ e :: after) :
    sortedFiles (xs ++ (e.1, .file content) :: ys) = before ++ (e.1, .file content) :: after := by
  have hnames : (xs ++ (e.1, FileTree.file content) :: ys).map Prod.fst =
      (xs ++ e :: ys).map Prod.fst := by
    simp
  have hmem : ∀ x, x ∈ before ++ e :: after ↔ x ∈ xs ++ e :: ys ∧ IsStubFile x := fun x => by
    rw [← h, mem_sortedFiles_iff]
  have hincreasing : (before ++ e :: after).Pairwise fun a b => a.1 < b.1 :=
    h ▸ pairwise_sortedFiles distinct
  refine eq_of_increasing_key Prod.fst ?_ ?_ fun x => ?_
  · exact pairwise_sortedFiles (hnames ▸ distinct)
  · rw [← List.pairwise_map (R := fun a b : String => a < b)] at hincreasing ⊢
    simpa using hincreasing
  · have hdistinct : ((before ++ e :: after).map Prod.fst).Nodup :=
      List.pairwise_map.2 (hincreasing.imp ne_of_lt)
    have hfile : IsStubFile (e.1, .file content) := ⟨⟨content, rfl⟩, ((hmem e).1 (by simp)).2.2⟩
    rw [mem_sortedFiles_iff, mem_replace_iff distinct, mem_replace_iff hdistinct, hmem]
    constructor
    · rintro ⟨rfl | ⟨hx, hne⟩, hstub⟩
      · exact .inl rfl
      · exact .inr ⟨⟨hx, hstub⟩, hne⟩
    · rintro (rfl | ⟨⟨hx, hstub⟩, hne⟩)
      · exact ⟨.inl rfl, hfile⟩
      · exact ⟨.inr ⟨hx, hne⟩, hstub⟩

/-- **The order in which a directory lists its entries** changes neither the stubs nor the errors.
-/
lemma stubsOfEntries_perm (distinct : (entries.map Prod.fst).Nodup) (h : others.Perm entries) :
    stubsOfEntries dir others = stubsOfEntries dir entries := by
  have hfiles : stubFiles others = stubFiles entries := by
    have hinj : Function.Injective fun f : String × Except FileError Bytes =>
        (f.1, FileTree.file f.2) := by
      rintro ⟨a, x⟩ ⟨b, y⟩ hab
      simpa using hab
    apply List.map_injective_iff.2 hinj
    rw [map_stubFiles, map_stubFiles, sortedFiles_perm distinct h]
  rw [stubsOfEntries, stubsOfEntries, hfiles]

end Entries

namespace Disk

/-- **The stubs of a directory** are those of its files with the extension `json`, one after the
other in the order of the octets of their names, whatever the order of the entries. A file that is
damaged adds nothing, and one that gets damaged takes away its own stubs and no others.

**Proof sketch.** The files are sorted, and names are different, so the order of the entries is
lost. What a file adds depends on this file alone. So the list of what they add is cut where the
file stands that gets damaged. -/
theorem stubsOfDirectory_by_name {d : Disk} {dir : String} {entries : List (String × FileTree)}
    (readable : d.list dir = .ok entries) (distinct : (entries.map Prod.fst).Nodup) :
    ∃ files stubs events,
      d.stubsOfDirectory dir = .ok (stubs, events) ∧
      (∀ e, e ∈ files ↔ e ∈ entries ∧ IsStubFile e) ∧
      (files.Pairwise fun a b => Utf8.encode a.1 < Utf8.encode b.1) ∧
      Concatenates dir files stubs ∧
      (∀ (d' : Disk) others, others.Perm entries → d'.list dir = .ok others →
        d'.stubsOfDirectory dir = .ok (stubs, events)) ∧
      ∀ before e after, files = before ++ e :: after →
        ∃ us part vs, Concatenates dir before us ∧ Adds dir e part ∧ Concatenates dir after vs ∧
          stubs = us ++ part ++ vs ∧
          ∀ (d' : Disk) xs ys content, entries = xs ++ e :: ys →
            (∀ held, ¬ Holds dir (e.1, .file content) held) →
            d'.list dir = .ok (xs ++ (e.1, .file content) :: ys) →
              ∃ events', d'.stubsOfDirectory dir = .ok (us ++ vs, events') := by
  have hstubs : ∀ {d' : Disk} {others}, d'.list dir = .ok others →
      d'.stubsOfDirectory dir = .ok (stubsOfEntries dir others) := by
    intro d' others h
    rw [stubsOfDirectory, h]
  refine ⟨sortedFiles entries, (stubsOfEntries dir entries).1, (stubsOfEntries dir entries).2,
    hstubs readable, fun _ => mem_sortedFiles_iff, ?_, ?_, ?_, ?_⟩
  · exact (pairwise_sortedFiles distinct).imp Utf8.encode_lt_encode_iff.2
  · rw [concatenates_iff, stubsOfEntries_eq]
  · intro d' others hperm h
    rw [hstubs h, stubsOfEntries_perm distinct hperm]
  · intro before e after hfiles
    refine ⟨_, _, _, concatenates_iff.2 rfl, adds_iff.2 rfl, concatenates_iff.2 rfl, ?_, ?_⟩
    · rw [stubsOfEntries_eq, hfiles, List.flatMap_append, List.flatMap_cons, List.append_assoc]
    · rintro d' xs ys content rfl hdamaged h
      have hnothing : addedStubs dir (e.1, .file content) = [] :=
        adds_iff.1 (.inr ⟨rfl, hdamaged⟩)
      refine ⟨(stubsOfEntries dir (xs ++ (e.1, .file content) :: ys)).2, (hstubs h).trans ?_⟩
      have hleft : (stubsOfEntries dir (xs ++ (e.1, .file content) :: ys)).1 =
          before.flatMap (addedStubs dir) ++ after.flatMap (addedStubs dir) := by
        rw [stubsOfEntries_eq, sortedFiles_replace distinct hfiles, List.flatMap_append,
          List.flatMap_cons, hnothing, List.nil_append]
      rw [← hleft]

/-- A file with a text. -/
def textFile (text : String) : FileTree :=
  .file (.ok (Utf8.encode text))

/-- A file with a document of one stub. -/
def oneStubFile (stub : String) : FileTree :=
  textFile ("\x7b\"mappings\":[\x7b\"name\":\"" ++ stub ++ "\"\x7d]\x7d")

/-- The entries of a directory in no order, with a file that is malformed and one that does not
count. -/
def mixedEntries : List (String × FileTree) :=
  [("b.json", oneStubFile "second"), ("broken.json", textFile "\x7bnot"),
    ("notes.txt", textFile ""), ("a.json", oneStubFile "first")]

/-- The directory with these entries. -/
def mixedDisk : Disk :=
  ⟨default, .directory [("stubs", .directory mixedEntries)]⟩

/-- The stubs of the two files that are documents are loaded by the names of the files. -/
theorem stubsOfDirectory_mixedDisk :
    mixedDisk.list "stubs" = .ok mixedEntries ∧ (mixedEntries.map Prod.fst).Nodup ∧
      ∃ files stubs events, mixedDisk.stubsOfDirectory "stubs" = .ok (stubs, events) ∧
        files.map Prod.fst = ["a.json", "b.json", "broken.json"] ∧
        Concatenates "stubs" files stubs ∧ stubs.map Stub.displayName = ["first", "second"] := by
  have hreadable : mixedDisk.list "stubs" = .ok mixedEntries := by rfl
  have hdistinct : (mixedEntries.map Prod.fst).Nodup := by decide
  obtain ⟨files, stubs, events, hstubs, hmem, hsorted, hparts, -⟩ :=
    stubsOfDirectory_by_name hreadable hdistinct
  have hfiles : files = [("a.json", oneStubFile "first"), ("b.json", oneStubFile "second"),
      ("broken.json", textFile "\x7bnot")] := by
    refine eq_of_increasing_key Prod.fst (hsorted.imp Utf8.encode_lt_encode_iff.1)
      (by simp only [List.pairwise_cons]; decide) fun e => ?_
    have hfilter : mixedEntries.filter isStubFile = [("b.json", oneStubFile "second"),
        ("broken.json", textFile "\x7bnot"), ("a.json", oneStubFile "first")] := by rfl
    rw [hmem, ← isStubFile_iff, ← List.mem_filter, hfilter]
    simp only [List.mem_cons, List.not_mem_nil, or_false]
    tauto
  subst hfiles
  refine ⟨hreadable, hdistinct, _, stubs, events, hstubs, rfl, hparts, ?_⟩
  rw [← concatenates_iff.1 hparts]
  decide +kernel

end Disk

end HttpStub
