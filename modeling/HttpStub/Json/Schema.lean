import HttpStub.Json.Decode

/-!
# Records as JSON objects

## Main definitions

* `HttpStub.Json.Field` — a member of a record: its name, when and how it is written, how it is
  read.
* `HttpStub.Json.Schema` — a record type: its members and the value that holds all defaults.
* `HttpStub.Json.Schema.encode` — the JSON object of a record.
* `HttpStub.Json.Schema.decode` — the record of a JSON object, or of an array of its members.

## Design

One list of fields serves writing and reading, so the two agree on names and order. Unknown members
are passed over; a known one may occur once. A record in the form of an array lists its members in
the order of the fields and may leave out the last ones.
-/

namespace HttpStub.Json

/-- A member of the record type `R`. Writing gives `none` where the member is left out; reading
gives the change that the member makes to a record. -/
structure Field (R : Type) where
  name : String
  encode : R → Option Value
  decode : Decoder (R → R)
  required : Bool

/-- The description of a record type: what a reader expects, whether an array is accepted in place
of an object, the record without members, and the members. -/
structure Schema (R : Type) where
  expected : String
  positional : Bool
  default : R
  fields : List (Field R)

namespace Schema

variable {R : Type}

/-- The JSON object of a record. -/
def encode (s : Schema R) (r : R) : Value :=
  .object (s.fields.filterMap fun f => (f.encode r).map fun v => (f.name, v))

/-- The field of a name. -/
def field? (s : Schema R) (name : String) : Option (Field R) :=
  s.fields.find? (·.name == name)

/-- The members of an object in the order of the text, with the names that have occurred. -/
def readMembers (s : Schema R) (room : Nat) :
    List String → R → List (Option String × Outline) → Except DecodeError (List String × R)
  | seen, r, [] => .ok (seen, r)
  | _, _, (none, _) :: _ => .error .malformed
  | seen, r, (some k, o) :: ms =>
    match s.field? k with
    | none => if o.wellFormed then readMembers s room seen r ms else .error .malformed
    | some f =>
      if seen.contains k then .error (.duplicateField k)
      else do
        let change ← f.decode room o
        readMembers s room (k :: seen) (change r) ms

/-- The first required field that has not occurred. -/
def missing? (s : Schema R) (seen : List String) : Option (Field R) :=
  s.fields.find? fun f => f.required && !seen.contains f.name

/-- What an array that is too short should have been. -/
def lengthText (s : Schema R) : String :=
  s.expected ++ " with " ++ toString s.fields.length
    ++ (if s.fields.length = 1 then " element" else " elements")

/-- The items of an array as the members in their order, with the number of those that have
occurred; `closed` tells whether the array is complete. -/
def readItems (s : Schema R) (room : Nat) (closed : Bool) :
    Nat → R → List (Field R) → List Outline → Except DecodeError R
  | _, r, [], [] => if closed then .ok r else .error .malformed
  | _, _, [], _ :: _ => .error .malformed
  | n, r, f :: fs, [] =>
    if !closed then .error .malformed
    else if f.required then .error (.tooShort n s.lengthText)
    else readItems s room closed (n + 1) r fs []
  | n, r, f :: fs, o :: os => do
    let change ← f.decode room o
    readItems s room closed (n + 1) (change r) fs os

/-- The record of an outline. -/
def decode (s : Schema R) : Decoder R := fun room o =>
  match room, o with
  | 0, .object _ _ => .error .malformed
  | room + 1, .object ms closed => do
    let (seen, r) ← s.readMembers room [] s.default ms
    if !closed then .error .malformed
    match s.missing? seen with
    | some f => .error (.missingField f.name)
    | none => return r
  | room, .array os closed =>
    if !s.positional then .error (Outline.mismatch s.expected (.array os closed))
    else
      match room with
      | 0 => .error .malformed
      | room + 1 => s.readItems room closed 0 s.default s.fields os
  | _, o => .error (o.mismatch s.expected)

end Schema

/-! ## Fields of common shapes -/

namespace Field

variable {R α : Type}

/-- A member that is left out when it is absent, and that `null` leaves absent. -/
def optional (name : String) (get : R → Option α) (set : Option α → R → R)
    (write : α → Value) (read : Decoder α) : Field R where
  name := name
  encode r := (get r).map write
  decode room o := (read.optional room o).map set
  required := false

/-- A member that is always written. -/
def always (name : String) (get : R → α) (set : α → R → R)
    (write : α → Value) (read : Decoder α) : Field R where
  name := name
  encode r := some (write (get r))
  decode room o := (read room o).map set
  required := false

/-- A member that a text must have. -/
def mandatory (name : String) (get : R → α) (set : α → R → R)
    (write : α → Value) (read : Decoder α) : Field R where
  name := name
  encode r := some (write (get r))
  decode room o := (read room o).map set
  required := true

/-- A list that is left out when it is empty. -/
def list (name : String) (get : R → List α) (set : List α → R → R)
    (write : α → Value) (read : Decoder α) : Field R where
  name := name
  encode r := if (get r).isEmpty then none else some (.array ((get r).map write))
  decode room o := (read.list room o).map set
  required := false

/-- A dictionary that is left out when it is empty. -/
def dict (name : String) (get : R → Dict α) (set : Dict α → R → R)
    (write : α → Value) (read : Decoder α) : Field R where
  name := name
  encode r :=
    if (get r).isEmpty then none
    else some (.object ((get r).entries.map fun (k, a) => (k, write a)))
  decode room o := (read.dict room o).map set
  required := false

end Field

end HttpStub.Json
