import HttpStub.Dict
import HttpStub.Json.Outline
import HttpStub.Text.Quoted

/-!
# Decoding JSON texts into types

## Main definitions

* `HttpStub.Json.DecodeError` — why a text does not describe a value of a type.
* `HttpStub.Json.Decoder` — how a type is read from the outline of a text.
* `HttpStub.Json.Decoder.string`, `HttpStub.Json.Decoder.list`, `HttpStub.Json.Decoder.dict` and
  others — the decoders of the basic types.
* `HttpStub.Json.Decoder.run` — a decoder applied to a whole text.

## Design

A decoder is told how many more arrays and objects it may open. It looks at the outline in the
order of the text, so that the first problem is the one that is reported; a text that breaks the
grammar is a problem at the place where it does.
-/

namespace HttpStub.Json

/-! ## Errors -/

/-- What is found in place of something else. -/
inductive Found where
  | null
  | bool (b : Bool)
  | number (n : Number)
  | string (s : String)
  | sequence
  | map
  deriving DecidableEq

/-- Why a text does not describe a value of a type. -/
inductive DecodeError where
  /-- The text is no JSON text, nests too deeply, or holds a number out of range. -/
  | malformed
  /-- A value of another kind stands where `expected` should. -/
  | wrongKind (found : Found) (expected : String)
  /-- A member of a record occurs twice. -/
  | duplicateField (name : String)
  /-- A member of a record is missing. -/
  | missingField (name : String)
  /-- A record in the form of an array has too few items. -/
  | tooShort (length : Nat) (expected : String)
  /-- The type's own rule refuses the value. -/
  | refused (reason : String)
  deriving DecidableEq

/-- The description of what is found. -/
def Found.text : Found → String
  | .null => "null"
  | .bool true => "boolean `true`"
  | .bool false => "boolean `false`"
  | .number (.integer n) =>
    "integer `" ++ String.ofList (Number.text (.integer n)) ++ "`"
  | .number (.float x) =>
    "floating point `" ++ String.ofList (Number.text (.float x)) ++ "`"
  | .string s => "string " ++ Text.quoted s
  | .sequence => "sequence"
  | .map => "map"

/-- The wording of an error. -/
def DecodeError.message : DecodeError → String
  | .malformed => "malformed JSON"
  | .wrongKind found expected =>
    "invalid type: " ++ found.text ++ ", expected " ++ expected
  | .duplicateField name => "duplicate field `" ++ name ++ "`"
  | .missingField name => "missing field `" ++ name ++ "`"
  | .tooShort length expected =>
    "invalid length " ++ toString length ++ ", expected " ++ expected
  | .refused reason => reason

/-! ## Values of any kind -/

mutual

/-- The value that an outline spells, if it opens at most `room` arrays and objects at once. Of two
members of the same name the later one counts, at the place of the first. -/
def Outline.value? : Nat → Outline → Option Value
  | _, .null => some .null
  | _, .bool b => some (.bool b)
  | _, .number l => l.value?.map .number
  | _, .string s => s.map .string
  | 0, .array _ _ => none
  | room + 1, .array items closed =>
    if closed then (itemValues? room items).map .array else none
  | 0, .object _ _ => none
  | room + 1, .object members closed =>
    if closed then (memberValues? room [] members).map .object else none
  | _, .broken => none

/-- The values of the members of an array. -/
def itemValues? : Nat → List Outline → Option (List Value)
  | _, [] => some []
  | room, o :: os => do
    let v ← o.value? room
    let vs ← itemValues? room os
    return v :: vs

/-- The members of an object, after the ones that are given. -/
def memberValues? : Nat → Members → List (Option String × Outline) → Option Members
  | _, acc, [] => some acc
  | room, acc, (key, o) :: ms => do
    let k ← key
    let v ← o.value? room
    memberValues? room (acc.put k v) ms

end

/-! ## Decoders -/

/-- How a value of a type is read, given how many more arrays and objects may be opened. -/
abbrev Decoder (α : Type) := Nat → Outline → Except DecodeError α

/-- The error for an outline that spells something else than `expected`. -/
def Outline.mismatch (expected : String) : Outline → DecodeError
  | .null => .wrongKind .null expected
  | .bool b => .wrongKind (.bool b) expected
  | .number l =>
    match l.value? with
    | some n => .wrongKind (.number n) expected
    | none => .malformed
  | .string (some s) => .wrongKind (.string s) expected
  | .string none => .malformed
  | .array _ _ => .wrongKind .sequence expected
  | .object _ _ => .wrongKind .map expected
  | .broken => .malformed

namespace Decoder

/-- A value of any kind. -/
def value : Decoder Value := fun room o =>
  match o.value? room with
  | some v => .ok v
  | none => .error .malformed

/-- A text. -/
def string : Decoder String := fun _ o =>
  match o with
  | .string (some s) => .ok s
  | o => .error (o.mismatch "a string")

/-- A truth value. -/
def bool : Decoder Bool := fun _ o =>
  match o with
  | .bool b => .ok b
  | o => .error (o.mismatch "a boolean")

/-- A value that `null` leaves out. -/
def optional {α : Type} (d : Decoder α) : Decoder (Option α) := fun room o =>
  match o with
  | .null => .ok none
  | o => (d room o).map some

/-- The items of an array in the order of the text. -/
def items {α : Type} (d : Decoder α) (room : Nat) : List Outline → Except DecodeError (List α)
  | [] => .ok []
  | o :: os => do
    let a ← d room o
    let as ← items d room os
    return a :: as

/-- An array. -/
def list {α : Type} (d : Decoder α) : Decoder (List α) := fun room o =>
  match room, o with
  | 0, .array _ _ => .error .malformed
  | room + 1, .array os closed => do
    let as ← items d room os
    if closed then return as else .error .malformed
  | _, o => .error (o.mismatch "a sequence")

/-- The members of an object in the order of the text, after the ones that are given. -/
def entries {α : Type} (d : Decoder α) (room : Nat) :
    Dict α → List (Option String × Outline) → Except DecodeError (Dict α)
  | acc, [] => .ok acc
  | _, (none, _) :: _ => .error .malformed
  | acc, (some k, o) :: ms => do
    let a ← d room o
    entries d room (acc.insert k a) ms

/-- An object as a dictionary; of two members of the same name the later one counts. -/
def dict {α : Type} (d : Decoder α) : Decoder (Dict α) := fun room o =>
  match room, o with
  | 0, .object _ _ => .error .malformed
  | room + 1, .object ms closed => do
    let es ← entries d room .empty ms
    if closed then return es else .error .malformed
  | _, o => .error (o.mismatch "a map")

/-- A value of any kind that a function turns into a value of the type. -/
def refine {α : Type} (f : Value → Except DecodeError α) : Decoder α := fun room o => do
  let v ← value room o
  f v

/-- How many arrays and objects a text may open at once. -/
def maxDepth : Nat := 127

/-- A decoder applied to the outline of a whole text, which must hold nothing else. -/
def read {α : Type} (d : Decoder α) (r : Reading) : Except DecodeError α := do
  let a ← d maxDepth r.outline
  if r.complete then return a else .error .malformed

/-- A decoder applied to a text given by its octets. -/
def run {α : Type} (d : Decoder α) (bs : Bytes) : Except DecodeError α :=
  d.read (Reading.ofBytes bs)

/-- A decoder applied to a text. -/
def runString {α : Type} (d : Decoder α) (s : String) : Except DecodeError α :=
  d.read (Reading.ofString s)

end Decoder

/-- The value of a JSON text given by its octets, if it is one. -/
def parse? (bs : Bytes) : Option Value :=
  (Decoder.value.run bs).toOption

/-- The value of a JSON text, if it is one. -/
def parseString? (s : String) : Option Value :=
  (Decoder.value.runString s).toOption

end HttpStub.Json
