import HttpStub.Yaml.Value

/-!
# Records as YAML mappings

## Main definitions

* `HttpStub.Yaml.Field` — a member of a record: its key, and how its value changes the record.
* `HttpStub.Yaml.Reader.record` — the record that a mapping describes.
* `HttpStub.Yaml.Reader.run` — a reader applied to a text.

## Design

A mapping gives members by key: unknown keys are passed over with whatever they hold, a known one
may occur once. Every key is a scalar. A place where nothing is written gives no members.
-/

namespace HttpStub.Yaml

/-- A member of the record type `R`: its key, and the change that a node makes to a record. -/
structure Field (R : Type) where
  name : String
  read : Reader (R → R)

/-- A member with a value of a type. -/
def Field.ofReader {R α : Type} (name : String) (read : Reader α) (set : α → R → R) : Field R :=
  ⟨name, fun root n => (read root n).map set⟩

namespace Reader

variable {R : Type}

/-- The record after the entries of a mapping; `seen` are the keys of the fields that have
occurred. -/
def entriesInto (fields : List (Field R)) (root : Node) :
    List String → R → List (Node × Node) → Option R
  | _, r, [] => some r
  | seen, r, (k, n) :: es =>
    match string root k with
    | none => none
    | some key =>
      match fields.find? (·.name == key) with
      | none => entriesInto fields root seen r es
      | some f =>
        if seen.contains key then none
        else
          (f.read root n).bind fun change => entriesInto fields root (key :: seen) (change r) es

/-- The record that a node describes, over the one that holds all defaults. -/
def record (fields : List (Field R)) (default : R) : Reader R := fun root n =>
  match root.resolve n with
  | .mapping _ es => entriesInto fields root [] default es
  | n => if isBlank n then some default else none

/-- A reader applied to a text. A text without a document is a place where nothing is written. -/
def run {α : Type} (r : Reader α) (s : String) : Option α := do
  let root := (← Node.ofTokens? (← Token.ofText? s)).getD .blank
  r root root

end Reader

end HttpStub.Yaml
