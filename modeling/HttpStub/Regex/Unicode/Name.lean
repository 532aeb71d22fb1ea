import HttpStub.Regex.Unicode.Age
import HttpStub.Regex.Unicode.Segment

/-!
# Properties by name

## Main definitions

* `HttpStub.Regex.normalName` — the spelling of a name that the tables have.
* `HttpStub.Regex.propertySet?` — the characters that a name alone stands for.
* `HttpStub.Regex.valueSet?` — the characters for which a property has a value.

## Design

A name alone is that of a binary property, of a general category or of a script, in this order.
-/

namespace HttpStub.Regex

/-! ## Spelling -/

/-- Without an `is` in front. -/
def dropIs : List Char → Option (List Char)
  | i :: s :: cs => if i.toLower = 'i' ∧ s.toLower = 's' then some cs else none
  | _ => none

/-- The characters of a name that count, in small letters: those of ASCII without spaces, low lines
and hyphens. -/
def significant (cs : List Char) : List Char :=
  (cs.filter fun c => c.toNat < 0x80 && c != ' ' && c != '_' && c != '-').map Char.toLower

/-- The spelling of a name that the tables have. An `is` in front is dropped, but what is left of
`isc` is not the name of a category. -/
def normalName (name : List Char) : String :=
  match dropIs name with
  | some cs => if significant cs = ['c'] then "isc" else String.ofList (significant cs)
  | none => String.ofList (significant name)

/-! ## Sets -/

/-- The characters that a name alone stands for. -/
def propertySet? (name : List Char) : Option CharSet :=
  Property.find? (Binary.all ++ Category.all ++ scripts.map Script.property) (normalName name)

/-- The values of a property. -/
def valuesOf? : String → Option (List Property)
  | "gc" | "generalcategory" => some Category.all
  | "sc" | "script" => some (scripts.map Script.property)
  | "scx" | "scriptextensions" => some (scripts.map Script.extension)
  | "age" => some ageProperties
  | "gcb" | "graphemeclusterbreak" => some ClusterBreak.all
  | "wb" | "wordbreak" => some WordBreak.all
  | "sb" | "sentencebreak" => some SentenceBreak.all
  | _ => none

/-- The characters for which a property has a value. -/
def valueSet? (name value : List Char) : Option CharSet :=
  (valuesOf? (normalName name)).bind (Property.find? · (normalName value))

end HttpStub.Regex
