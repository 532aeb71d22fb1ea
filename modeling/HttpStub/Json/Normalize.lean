import HttpStub.Json.Canonical

/-!
# Normal forms of JSON values

Exported values are brought into an order that does not depend on how they were recorded.

## Main definitions

* `HttpStub.Json.Value.sortArrays` — every array in the order of its members' canonical texts.
* `HttpStub.Json.Value.sortKeys` — every object in the order of its names.
* `HttpStub.Json.Value.normalize` — both, as options ask for.
-/

namespace HttpStub.Json

/-- Values in the order of their canonical texts; equal ones keep their order. -/
def sortByCanonical (vs : List Value) : List Value :=
  (sortByKey (vs.map fun v => (v.canonical, v))).map Prod.snd

mutual

/-- Every array in the order of the canonical texts of its members, inner arrays first. -/
def Value.sortArrays : Value → Value
  | .array items => .array (sortByCanonical (sortItemArrays items))
  | .object members => .object (sortMemberArrays members)
  | v => v

/-- The values with their arrays sorted. -/
def sortItemArrays : List Value → List Value
  | [] => []
  | v :: vs => v.sortArrays :: sortItemArrays vs

/-- The members with their arrays sorted. -/
def sortMemberArrays : List (String × Value) → List (String × Value)
  | [] => []
  | (k, v) :: ms => (k, v.sortArrays) :: sortMemberArrays ms

end

mutual

/-- Every object in the order of its names. -/
def Value.sortKeys : Value → Value
  | .array items => .array (sortItemKeys items)
  | .object members => .object (sortByKey (sortMemberKeys members))
  | v => v

/-- The values with their objects sorted. -/
def sortItemKeys : List Value → List Value
  | [] => []
  | v :: vs => v.sortKeys :: sortItemKeys vs

/-- The members with their objects sorted. -/
def sortMemberKeys : List (String × Value) → List (String × Value)
  | [] => []
  | (k, v) :: ms => (k, v.sortKeys) :: sortMemberKeys ms

end

/-- The value as options ask for it: arrays sorted or as they are, and members sorted unless their
order is kept. -/
def Value.normalize (sortArrayMembers preserveKeyOrder : Bool) (v : Value) : Value :=
  let w := if sortArrayMembers then v.sortArrays else v
  if preserveKeyOrder then w else w.sortKeys

end HttpStub.Json
