import HttpStub.Json.Value

/-!
# The canonical text of a JSON value

Two values are compared by their canonical texts, in which the order of members and the spelling
of whole floating point numbers play no part.

## Main definitions

* `HttpStub.Json.Value.canonicalChars`, `HttpStub.Json.Value.canonical` — the canonical text.
* `HttpStub.Json.sortByKey` — pairs in the order of their first parts.
-/

namespace HttpStub.Json

/-- Pairs in the order of their first parts; equal ones keep their order. -/
def sortByKey {α : Type} (ps : List (String × α)) : List (String × α) :=
  ps.mergeSort fun a b => decide (a.1 ≤ b.1)

mutual

/-- The characters of the canonical text. -/
def Value.canonicalChars : Value → List Char
  | .null => ['n', 'u', 'l', 'l']
  | .bool true => ['t', 'r', 'u', 'e']
  | .bool false => ['f', 'a', 'l', 's', 'e']
  | .number n => n.canonicalText
  | .string s => stringText s
  | .array items => '[' :: (commaJoin (canonicalItems items) ++ [']'])
  | .object members =>
    '\x7b' :: (commaJoin ((sortByKey (canonicalMembers members)).map memberText) ++ ['\x7d'])
where
  /-- A member's name and its canonical text, joined. -/
  memberText : String × List Char → List Char
    | (k, t) => stringText k ++ ':' :: t

/-- The canonical texts of the members of an array. -/
def canonicalItems : List Value → List (List Char)
  | [] => []
  | v :: vs => v.canonicalChars :: canonicalItems vs

/-- The names of the members of an object with their canonical texts. -/
def canonicalMembers : List (String × Value) → List (String × List Char)
  | [] => []
  | (k, v) :: ms => (k, v.canonicalChars) :: canonicalMembers ms

end

/-- The canonical text of a value. -/
def Value.canonical (v : Value) : String :=
  String.ofList v.canonicalChars

/-- Two values have the same canonical text. -/
def Value.same (v w : Value) : Bool :=
  v.canonical == w.canonical

end HttpStub.Json
