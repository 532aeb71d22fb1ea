/-!
# Entries by key

Some collections keep their keys in the order of arrival, and some in the order of the keys.

## Main definitions

* `HttpStub.addToGroup` — a member added to the group of its key.
* `HttpStub.groupBy` — members grouped by key, in the order in which the keys arrive.
* `HttpStub.putEntry` — the value of a key set, in its old place if it has one.
* `HttpStub.Dict` — a finite map from texts, its entries sorted by key.
* `HttpStub.Dict.insert` — the dictionary with one more entry, which replaces an old one.
* `HttpStub.Dict.get?` — the value of a key.

## Design

The entries of a dictionary are a list whose keys increase strictly, so two dictionaries are equal
when they hold the same entries. Keys are compared by code points.
-/

namespace HttpStub

/-! ## The order of arrival -/

/-- The member goes to the first group of its key, or to a new one at the end. A group keeps the
key that it was opened with. -/
def addToGroup {κ α : Type} (same : κ → κ → Bool) (k : κ) (a : α) :
    List (κ × List α) → List (κ × List α)
  | [] => [(k, [a])]
  | (j, as) :: gs => if same j k then (j, as ++ [a]) :: gs else (j, as) :: addToGroup same k a gs

/-- Members grouped by key: groups in the order in which their keys arrive, members in theirs. -/
def groupBy {κ α : Type} (same : κ → κ → Bool) (xs : List (κ × α)) : List (κ × List α) :=
  xs.foldl (fun gs x => addToGroup same x.1 x.2 gs) []

/-- The value of a key set: in its old place if it has one, at the end otherwise. -/
def putEntry {α : Type} (k : String) (v : α) : List (String × α) → List (String × α)
  | [] => [(k, v)]
  | (j, w) :: es => if j = k then (j, v) :: es else (j, w) :: putEntry k v es

/-! ## The order of the keys -/

/-- Entries whose keys increase strictly. -/
def Increasing {α : Type} (es : List (String × α)) : Prop :=
  es.Pairwise fun a b => a.1 < b.1

/-- The entries with one more, which replaces the one of the same key. -/
def insertEntry {α : Type} (k : String) (v : α) : List (String × α) → List (String × α)
  | [] => [(k, v)]
  | (j, w) :: es =>
    if k < j then (k, v) :: (j, w) :: es
    else if k = j then (k, v) :: es
    else (j, w) :: insertEntry k v es

/-- An entry after an insertion is the new one or one of the old ones. -/
theorem mem_insertEntry {α : Type} {k : String} {v : α} {es : List (String × α)}
    {e : String × α} (h : e ∈ insertEntry k v es) : e = (k, v) ∨ e ∈ es := by
  induction es with
  | nil => simpa [insertEntry] using h
  | cons f es ih =>
    obtain ⟨j, w⟩ := f
    unfold insertEntry at h
    split at h
    · simpa using h
    · split at h
      · rcases List.mem_cons.1 h with h | h
        · exact .inl h
        · exact .inr (List.mem_cons_of_mem _ h)
      · rcases List.mem_cons.1 h with h | h
        · exact .inr (h ▸ List.mem_cons_self)
        · exact (ih h).imp_right (List.mem_cons_of_mem _)

/-- **An insertion keeps the keys in order**: the new entry goes in front of the first larger key.
-/
theorem Increasing.insertEntry {α : Type} {es : List (String × α)} (h : Increasing es)
    (k : String) (v : α) : Increasing (HttpStub.insertEntry k v es) := by
  induction es with
  | nil => simp [HttpStub.insertEntry, Increasing]
  | cons f es ih =>
    obtain ⟨j, w⟩ := f
    have hf := List.pairwise_cons.1 h
    unfold HttpStub.insertEntry
    split
    · next hkj =>
      refine List.pairwise_cons.2 ⟨fun e he => ?_, h⟩
      rcases List.mem_cons.1 he with he | he
      · exact he ▸ hkj
      · exact String.lt_trans hkj (hf.1 e he)
    · split
      · next hkj => exact List.pairwise_cons.2 ⟨fun e he => hkj ▸ hf.1 e he, hf.2⟩
      · next hlt hne =>
        refine List.pairwise_cons.2 ⟨fun e he => ?_, ih hf.2⟩
        rcases mem_insertEntry he with he | he
        · subst he
          exact Decidable.byContradiction fun hn => hne (String.le_antisymm hn hlt)
        · exact hf.1 e he

/-- A finite map from texts, its entries sorted by key. -/
structure Dict (α : Type) where
  entries : List (String × α)
  increasing : Increasing entries

namespace Dict

variable {α β : Type}

/-- The dictionary without entries. -/
def empty : Dict α := ⟨[], List.Pairwise.nil⟩

instance : Inhabited (Dict α) := ⟨empty⟩

/-- The dictionary has no entry. -/
def isEmpty (d : Dict α) : Bool :=
  d.entries.isEmpty

/-- The dictionary with one more entry, which replaces the one of the same key. -/
def insert (d : Dict α) (k : String) (v : α) : Dict α :=
  ⟨insertEntry k v d.entries, d.increasing.insertEntry k v⟩

/-- The dictionary of some entries; of two with the same key the later one counts. -/
def ofList (es : List (String × α)) : Dict α :=
  es.foldl (fun d e => d.insert e.1 e.2) empty

/-- The value of a key. -/
def get? (d : Dict α) (k : String) : Option α :=
  (d.entries.find? (·.1 == k)).map Prod.snd

/-- The number of entries. -/
def size (d : Dict α) : Nat :=
  d.entries.length

/-- Two dictionaries with the same entries are the same. -/
theorem ext {d e : Dict α} (h : d.entries = e.entries) : d = e := by
  cases d; cases e; cases h; rfl

end Dict

end HttpStub
