import HttpStub.Yaml.Node

/-!
# Values of YAML nodes

## Main definitions

* `HttpStub.Yaml.Reader` — how a node of a document is read as a value of a type.
* `HttpStub.Yaml.Reader.string`, `HttpStub.Yaml.Reader.bool`, `HttpStub.Yaml.Reader.natural` — the
  values of scalars.
* `HttpStub.Yaml.Reader.optional`, `HttpStub.Yaml.Reader.list` — values that may be missing, and
  sequences of values.

## Design

What a node is read as depends on the type that is asked for: every scalar is a text, and a scalar
without marks is also a number or a truth value if it is spelled like one. Tags count where nothing
else decides.
-/

namespace HttpStub.Yaml

/-! ## Spellings -/

/-- The spellings of no value. -/
def isNullText (s : String) : Bool :=
  ["~", "null", "Null", "NULL"].contains s

/-- The truth value that is spelled. -/
def boolOfText? (s : String) : Option Bool :=
  if ["true", "True", "TRUE"].contains s then some true
  else if ["false", "False", "FALSE"].contains s then some false
  else none

/-- The number that is spelled in one of four bases. A decimal number has no needless zero in
front. -/
def naturalOfDigits? : List Char → Option Nat
  | '0' :: 'x' :: cs => digits? 16 cs
  | '0' :: 'o' :: cs => digits? 8 cs
  | '0' :: 'b' :: cs => digits? 2 cs
  | '0' :: c :: cs => if (c :: cs).all Char.isDigit then none else digits? 10 ('0' :: c :: cs)
  | cs => digits? 10 cs

/-- The natural number that is spelled. -/
def naturalOfText? (s : String) : Option Nat :=
  match s.toList with
  | '+' :: cs => naturalOfDigits? cs
  | cs => naturalOfDigits? cs

/-- The tags of the three types of scalars. -/
def nullTag : String := "tag:yaml.org,2002:null"

@[inherit_doc nullTag]
def boolTag : String := "tag:yaml.org,2002:bool"

@[inherit_doc nullTag]
def intTag : String := "tag:yaml.org,2002:int"

/-- The name that a tag of the document's own gives. -/
def localTag? (props : Properties) : Option String :=
  match props.tag.map String.toList with
  | some ['!'] => some "!"
  | some ('!' :: cs) => some (String.ofList cs)
  | _ => none

/-! ## Readers -/

/-- How a node of a document, whose root is known, is read as a value. -/
abbrev Reader (α : Type) := Node → Node → Option α

namespace Reader

/-- The text of a scalar. -/
def string : Reader String := fun root n =>
  match root.resolve n with
  | .scalar _ s _ => some s
  | _ => none

/-- The text of a scalar that may be other than text: one without marks, or a literal block with a
tag. -/
def untypedText? (tag : String) (root n : Node) : Option String :=
  match root.resolve n with
  | .scalar _ s .plain => some s
  | .scalar props s .literal => if props.tag = some tag then some s else none
  | _ => none

/-- A truth value. -/
def bool : Reader Bool := fun root n =>
  (untypedText? boolTag root n).bind boolOfText?

/-- A natural number below a bound. -/
def natural (bound : Nat) : Reader Nat := fun root n =>
  ((untypedText? intTag root n).bind naturalOfText?).filter (· < bound)

/-- Nothing is written in the place of the node. -/
def isBlank : Node → Bool
  | .scalar _ "" .plain => true
  | _ => false

/-- A value that may be missing. -/
def optional {α : Type} (r : Reader α) : Reader (Option α) := fun root n =>
  match root.resolve n with
  | .scalar props s .plain =>
    match props.tag with
    | some tag =>
      if tag ≠ nullTag then (r root n).map some else if isNullText s then some none else none
    | none => if s.isEmpty || isNullText s then some none else (r root n).map some
  | _ => (r root n).map some

/-- The values of a sequence. A place where nothing is written has none. -/
def list {α : Type} (r : Reader α) : Reader (List α) := fun root n =>
  match root.resolve n with
  | .sequence _ items => items.mapM (r root)
  | n => if isBlank n then some [] else none

/-- One of several cases, by its name in a scalar or in a tag; after a tag nothing else is
written. -/
def named {α : Type} (ofName? : String → Option α) : Reader α := fun root n =>
  match root.resolve n with
  | .scalar props s style =>
    match localTag? props with
    | some name => if style = .plain ∧ (s.isEmpty ∨ isNullText s) then ofName? name else none
    | none => ofName? s
  | _ => none

end Reader

end HttpStub.Yaml
