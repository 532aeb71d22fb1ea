import HttpStub.Yaml.Token

/-!
# The nodes of a YAML text

## Main definitions

* `HttpStub.Yaml.Node` — a scalar, a sequence, a mapping, or a reference to another node.
* `HttpStub.Yaml.Node.resolve` — the node that a node of a document stands for.
* `HttpStub.Yaml.Handles` — what the handles of tags stand for in a document.
* `HttpStub.Yaml.Node.ofTokens?` — the node of the document that a list of tokens holds.

## Design

The functions follow the grammar: each one reads a node or the rest of a collection and gives what
it has read with the tokens after it. Where nothing is written, a node is a plain scalar without
text. `fuel` bounds the number of calls; each call either takes a token or is the only one that
does not in between.
-/

namespace HttpStub.Yaml

/-- The anchor and the tag of a node. -/
structure Properties where
  anchor : Option Nat
  tag : Option String
  deriving DecidableEq, Repr

/-- The node has neither. -/
def Properties.empty : Properties := ⟨none, none⟩

/-- A node of a YAML text. -/
inductive Node where
  | scalar (props : Properties) (text : String) (style : Style)
  | sequence (props : Properties) (items : List Node)
  | mapping (props : Properties) (entries : List (Node × Node))
  | alias (number : Nat)

instance : Inhabited Node := ⟨.alias 0⟩

namespace Node

/-- The node of a place where nothing is written. -/
def blank : Node := .scalar .empty "" .plain

/-- The node where nothing but an anchor and a tag is written. -/
def bare (props : Properties) : Node := .scalar props "" .plain

end Node

/-! ## References -/

mutual

/-- The node that a number stands for below a node: the last one of those with an anchor of this
number. -/
def Node.target? (number : Nat) : Node → Option Node
  | .alias _ => none
  | .scalar props text style =>
    if props.anchor = some number then some (.scalar props text style) else none
  | .sequence props items =>
    (targetInItems? number items).or
      (if props.anchor = some number then some (.sequence props items) else none)
  | .mapping props entries =>
    (targetInEntries? number entries).or
      (if props.anchor = some number then some (.mapping props entries) else none)

/-- The node that a number stands for below some nodes. -/
def targetInItems? (number : Nat) : List Node → Option Node
  | [] => none
  | n :: ns => (targetInItems? number ns).or (n.target? number)

/-- The node that a number stands for below some entries. -/
def targetInEntries? (number : Nat) : List (Node × Node) → Option Node
  | [] => none
  | (k, v) :: es => ((targetInEntries? number es).or (v.target? number)).or (k.target? number)

end

/-- The node that a node of a document stands for. -/
def Node.resolve (root n : Node) : Node :=
  match n with
  | .alias number => (root.target? number).getD n
  | n => n

/-! ## Tags -/

/-- What the handles of tags stand for. -/
abbrev Handles := List (String × String)

/-- The handles that every document knows. -/
def Handles.default : Handles := [("!", "!"), ("!!", "tag:yaml.org,2002:")]

/-- The tag of a handle and a suffix. -/
def Handles.resolve? (hs : Handles) (handle suffix : String) : Option String :=
  if handle.isEmpty then some suffix else (hs.lookup handle).map (· ++ suffix)

/-- The properties in front of a node, in any order. -/
def readProperties? (hs : Handles) : List Token → Option (Properties × List Token)
  | .anchor a :: .tag h s :: ts => (hs.resolve? h s).map fun t => (⟨some a, some t⟩, ts)
  | .tag h s :: .anchor a :: ts => (hs.resolve? h s).map fun t => (⟨some a, some t⟩, ts)
  | .anchor a :: ts => some (⟨some a, none⟩, ts)
  | .tag h s :: ts => (hs.resolve? h s).map fun t => (⟨none, some t⟩, ts)
  | ts => some (.empty, ts)

/-- The properties of a scalar that is written: an exclamation mark alone is no tag. -/
def Properties.ofScalar (props : Properties) : Properties :=
  if props.tag = some "!" then { props with tag := none } else props

/-! ## Nodes -/

/-- Where a node stands. -/
inductive Place where
  /-- In a flow collection. -/
  | flow
  /-- In a block. -/
  | block
  /-- Beside a key of a block mapping, where the items of a sequence need no indentation. -/
  | entry
  deriving DecidableEq, Repr

/-- A token after which a place in a block sequence is empty. -/
def endsItem : Token → Bool
  | .dash | .blockEnd => true
  | _ => false

/-- A token after which a place in a block mapping is empty. -/
def endsEntry : Token → Bool
  | .key | .value | .blockEnd => true
  | _ => false

/-- A token after which a place in a sequence in brackets is empty. -/
def endsFlowItem : Token → Bool
  | .comma | .closeBracket => true
  | _ => false

/-- A token after which a place in a mapping in braces is empty. -/
def endsFlowEntry : Token → Bool
  | .comma | .closeBrace => true
  | _ => false

/-- The tokens after a comma; the first part of a collection needs none. -/
def afterComma? (first : Bool) (ts : List Token) : Option (List Token) :=
  if first then some ts
  else
    match ts with
    | .comma :: ts => some ts
    | _ => none

mutual

/-- A node. -/
def readNode? : Nat → Handles → Place → List Token → Option (Node × List Token)
  | 0, _, _, _ => none
  | _ + 1, _, _, .alias number :: ts => some (.alias number, ts)
  | fuel + 1, hs, place, ts => do
    let (props, ts) ← readProperties? hs ts
    match ts, place with
    | .dash :: _, .entry => do
      let (items, ts) ← readLooseItems? fuel hs ts
      return (.sequence props items, ts)
    | .scalar text style :: ts, _ => return (.scalar props.ofScalar text style, ts)
    | .openBracket :: ts, _ => do
      let (items, ts) ← readFlowItems? fuel hs true ts
      return (.sequence props items, ts)
    | .openBrace :: ts, _ => do
      let (entries, ts) ← readFlowEntries? fuel hs true ts
      return (.mapping props entries, ts)
    | ts, place =>
      match ts, place == .flow with
      | .blockSequence :: ts, false => do
        let (items, ts) ← readItems? fuel hs ts
        return (.sequence props items, ts)
      | .blockMapping :: ts, false => do
        let (entries, ts) ← readEntries? fuel hs ts
        return (.mapping props entries, ts)
      | ts, _ => if props = .empty then none else return (.bare props, ts)

/-- A node, unless a token shows that nothing is written. -/
def readPart? :
    Nat → Handles → Place → (Token → Bool) → List Token → Option (Node × List Token)
  | 0, _, _, _, _ => none
  | fuel + 1, hs, place, isEnd, ts =>
    if ts.head?.any isEnd then some (.blank, ts) else readNode? fuel hs place ts

/-- The items of a block sequence. -/
def readItems? : Nat → Handles → List Token → Option (List Node × List Token)
  | 0, _, _ => none
  | fuel + 1, hs, ts =>
    match ts with
    | .dash :: ts => do
      let (n, ts) ← readPart? fuel hs .block endsItem ts
      let (ns, ts) ← readItems? fuel hs ts
      return (n :: ns, ts)
    | .blockEnd :: ts => some ([], ts)
    | _ => none

/-- The items of a block sequence in the column of its key. It has no token at its end. -/
def readLooseItems? : Nat → Handles → List Token → Option (List Node × List Token)
  | 0, _, _ => none
  | fuel + 1, hs, ts =>
    match ts with
    | .dash :: ts => do
      let (n, ts) ← readPart? fuel hs .block (fun t => endsItem t || endsEntry t) ts
      let (ns, ts) ← readLooseItems? fuel hs ts
      return (n :: ns, ts)
    | ts => some ([], ts)

/-- The entries of a block mapping. -/
def readEntries? : Nat → Handles → List Token → Option (List (Node × Node) × List Token)
  | 0, _, _ => none
  | fuel + 1, hs, ts =>
    match ts with
    | .key :: ts => do
      let (k, ts) ← readPart? fuel hs .entry endsEntry ts
      let (v, ts) ←
        match ts with
        | .value :: ts => readPart? fuel hs .entry endsEntry ts
        | ts => some (.blank, ts)
      let (es, ts) ← readEntries? fuel hs ts
      return ((k, v) :: es, ts)
    | .blockEnd :: ts => some ([], ts)
    | _ => none

/-- The items of a sequence in brackets. A key makes an item a mapping of one entry. -/
def readFlowItems? : Nat → Handles → Bool → List Token → Option (List Node × List Token)
  | 0, _, _, _ => none
  | fuel + 1, hs, first, ts =>
    match ts with
    | .closeBracket :: ts => some ([], ts)
    | ts => do
      let ts ← afterComma? first ts
      match ts with
      | .closeBracket :: ts => return ([], ts)
      | .key :: ts =>
        let (e, ts) ← readPair? fuel hs ts
        let (ns, ts) ← readFlowItems? fuel hs false ts
        return (.mapping .empty [e] :: ns, ts)
      | ts =>
        let (n, ts) ← readNode? fuel hs .flow ts
        let (ns, ts) ← readFlowItems? fuel hs false ts
        return (n :: ns, ts)

/-- The entry of an item with a key, after the key's token. A key that is left out takes the token
after it along. -/
def readPair? : Nat → Handles → List Token → Option ((Node × Node) × List Token)
  | 0, _, _ => none
  | fuel + 1, hs, ts => do
    let (k, ts) ←
      if ts.head?.any fun t => t == .value || endsFlowItem t then some (.blank, ts.tail)
      else readNode? fuel hs .flow ts
    let (v, ts) ←
      match ts with
      | .value :: ts => readPart? fuel hs .flow endsFlowItem ts
      | ts => some (.blank, ts)
    return ((k, v), ts)

/-- The entries of a mapping in braces. An entry may be a key alone. -/
def readFlowEntries? :
    Nat → Handles → Bool → List Token → Option (List (Node × Node) × List Token)
  | 0, _, _, _ => none
  | fuel + 1, hs, first, ts =>
    match ts with
    | .closeBrace :: ts => some ([], ts)
    | ts => do
      let ts ← afterComma? first ts
      match ts with
      | .closeBrace :: ts => return ([], ts)
      | .key :: ts =>
        let (k, ts) ← readPart? fuel hs .flow (fun t => t == .value || endsFlowEntry t) ts
        let (v, ts) ←
          match ts with
          | .value :: ts => readPart? fuel hs .flow endsFlowEntry ts
          | ts => some (.blank, ts)
        let (es, ts) ← readFlowEntries? fuel hs false ts
        return ((k, v) :: es, ts)
      | ts =>
        let (k, ts) ← readNode? fuel hs .flow ts
        let (es, ts) ← readFlowEntries? fuel hs false ts
        return ((k, .blank) :: es, ts)

end

/-! ## Documents -/

/-- The handles after the directives, and the tokens after these; `versioned` tells that a version
has been given. A handle may be declared once, and the version has to be one that is known. -/
def readDirectives? : Handles → Bool → List Token → Option (Handles × List Token)
  | hs, versioned, ts =>
    match ts with
    | .version major minor :: ts =>
      if versioned || major != 1 || (minor != 1 && minor != 2) then none
      else readDirectives? hs true ts
    | .tagHandle handle lead :: ts =>
      if (hs.lookup handle).isSome then none
      else readDirectives? ((handle, lead) :: hs) versioned ts
    | ts => some (hs ++ Handles.default, ts)

/-- A token that ends a document. -/
def endsDocument : Token → Bool
  | .version _ _ | .tagHandle _ _ | .documentStart | .documentEnd => true
  | _ => false

/-- The node of a document after the directives, if its start is marked. -/
def readMarked? (fuel : Nat) (ts : List Token) : Option (Node × List Token) := do
  let (hs, ts) ← readDirectives? [] false ts
  match ts with
  | .documentStart :: ts =>
    match ts with
    | [] => return (.blank, [])
    | t :: ts =>
      if endsDocument t then return (.blank, t :: ts) else readNode? fuel hs .block (t :: ts)
  | _ => none

/-- The node of the only document of a list of tokens; without tokens there is none. Marks of the
end may follow it, but no other document. -/
def Node.ofTokens? (ts : List Token) : Option (Option Node) :=
  let fuel := 3 * ts.length + 3
  match ts with
  | [] => some none
  | t :: _ => do
    let (n, rest) ←
      match t with
      | .version _ _ | .tagHandle _ _ | .documentStart => readMarked? fuel ts
      | _ => readNode? fuel .default .block ts
    if rest.all (· == .documentEnd) then return some n else none

end HttpStub.Yaml
