import HttpStub.Dict
import HttpStub.Json.Number

/-!
# JSON values and their compact text

## Main definitions

* `HttpStub.Json.Value` — a JSON value; the members of an object keep their order.
* `HttpStub.Json.Value.compact` — the text of a value without blanks.
* `HttpStub.Json.Members.put` — a member added to an object, which replaces one of the same name.
* `HttpStub.Json.Value.DistinctKeys` — no object at any depth repeats a name.
* `HttpStub.Json.Value.depth` — how many arrays and objects are open at once.
-/

namespace HttpStub.Json

/-- A JSON value. -/
inductive Value where
  | null
  | bool (b : Bool)
  | number (n : Number)
  | string (s : String)
  | array (items : List Value)
  | object (members : List (String × Value))

/-- The members of an object in their order. -/
abbrev Members := List (String × Value)

instance : Inhabited Value := ⟨.null⟩

/-! ## Text -/

/-- The four hexadecimal digits of a code point below `U+0100`. -/
def hexDigits (n : Nat) : List Char :=
  ['0', '0', Nat.digitChar (n / 16), Nat.digitChar (n % 16)]

/-- A character inside a string: quotation mark, backslash and controls are escaped. -/
def escapedChar (c : Char) : List Char :=
  if c = '"' then ['\\', '"']
  else if c = '\\' then ['\\', '\\']
  else if c = '\n' then ['\\', 'n']
  else if c = '\r' then ['\\', 'r']
  else if c = '\t' then ['\\', 't']
  else if c = '\x08' then ['\\', 'b']
  else if c = '\x0c' then ['\\', 'f']
  else if c.toNat < 0x20 then '\\' :: 'u' :: hexDigits c.toNat
  else [c]

/-- A string between quotation marks. -/
def stringText (s : String) : List Char :=
  '"' :: (s.toList.flatMap escapedChar ++ ['"'])

/-- Texts with a comma between two of them. -/
def commaJoin : List (List Char) → List Char
  | [] => []
  | [t] => t
  | t :: ts => t ++ ',' :: commaJoin ts

mutual

/-- The characters of the compact text. -/
def Value.chars : Value → List Char
  | .null => ['n', 'u', 'l', 'l']
  | .bool true => ['t', 'r', 'u', 'e']
  | .bool false => ['f', 'a', 'l', 's', 'e']
  | .number n => n.text
  | .string s => stringText s
  | .array items => '[' :: (commaJoin (itemChars items) ++ [']'])
  | .object members => '\x7b' :: (commaJoin (memberChars members) ++ ['\x7d'])

/-- The compact texts of the members of an array. -/
def itemChars : List Value → List (List Char)
  | [] => []
  | v :: vs => v.chars :: itemChars vs

/-- The compact texts of the members of an object. -/
def memberChars : List (String × Value) → List (List Char)
  | [] => []
  | (k, v) :: ms => (stringText k ++ ':' :: v.chars) :: memberChars ms

end

/-- The compact text of a value. -/
def Value.compact (v : Value) : String :=
  String.ofList v.chars

/-! ## Members -/

namespace Members

/-- The members with `key` set to `v`: in its old place if there was one, at the end otherwise. -/
def put (key : String) (v : Value) (ms : Members) : Members :=
  putEntry key v ms

/-- The names in their order. -/
def keys (ms : Members) : List String :=
  ms.map Prod.fst

end Members

/-! ## Shape -/

mutual

/-- No object repeats a name. -/
def Value.DistinctKeys : Value → Prop
  | .array items => distinctItems items
  | .object members => (members.map Prod.fst).Nodup ∧ distinctMembers members
  | _ => True

/-- No object inside the values repeats a name. -/
def distinctItems : List Value → Prop
  | [] => True
  | v :: vs => v.DistinctKeys ∧ distinctItems vs

/-- No object inside the members repeats a name. -/
def distinctMembers : List (String × Value) → Prop
  | [] => True
  | (_, v) :: ms => v.DistinctKeys ∧ distinctMembers ms

end

mutual

/-- How many arrays and objects are open at once. -/
def Value.depth : Value → Nat
  | .array items => itemsDepth items + 1
  | .object members => membersDepth members + 1
  | _ => 0

/-- The greatest depth of the values. -/
def itemsDepth : List Value → Nat
  | [] => 0
  | v :: vs => max v.depth (itemsDepth vs)

/-- The greatest depth of the members. -/
def membersDepth : List (String × Value) → Nat
  | [] => 0
  | (_, v) :: ms => max v.depth (membersDepth ms)

end

mutual

/-- No number at any depth is a floating point number. -/
def Value.floatFree : Value → Bool
  | .number n => n.isInteger
  | .array items => itemsFloatFree items
  | .object members => membersFloatFree members
  | _ => true

/-- No number in the values is a floating point number. -/
def itemsFloatFree : List Value → Bool
  | [] => true
  | v :: vs => v.floatFree && itemsFloatFree vs

/-- No number in the members is a floating point number. -/
def membersFloatFree : List (String × Value) → Bool
  | [] => true
  | (_, v) :: ms => v.floatFree && membersFloatFree ms

end

end HttpStub.Json
