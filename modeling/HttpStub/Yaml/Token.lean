import HttpStub.Yaml.Scalar

/-!
# Tokens of a YAML text

## Main definitions

* `HttpStub.Yaml.Token` — a mark, a property or a scalar.
* `HttpStub.Yaml.Layout` — the indentation of the open collections and the keys that may still turn
  out to be keys.
* `HttpStub.Yaml.Token.ofText?` — the tokens of a text.

## Design

Collections that are told by their indentation get a token where they start and one where they end.
A node before a colon is only known to be a key once the colon comes: its place among the tokens is
kept, and the token of the key is put in there. Such a key is on one line and not longer than
`maxKeySize`.

Each anchor gets as its number how many names of anchors came before it. A name that is used again
is not counted again, so that two anchors can share a number.
-/

namespace HttpStub.Yaml

/-- A token of a YAML text. -/
inductive Token where
  | version (major minor : Nat)
  | tagHandle (handle lead : String)
  | documentStart
  | documentEnd
  | blockSequence
  | blockMapping
  | blockEnd
  | openBracket
  | closeBracket
  | openBrace
  | closeBrace
  | dash
  | comma
  | key
  | value
  | alias (number : Nat)
  | anchor (number : Nat)
  | tag (handle suffix : String)
  | scalar (text : String) (style : Style)
  deriving DecidableEq, Repr

/-! ## Layout -/

/-- A node that may turn out to be a key: whether it has to, the number of tokens before it, and its
place. -/
structure Candidate where
  required : Bool
  index : Nat
  line : Nat
  column : Nat
  deriving DecidableEq, Repr

/-- The largest distance of a key from its colon. -/
def maxKeySize : Nat := 1024

/-- The candidate is too far from a place to be a key. -/
def Candidate.isStale (k : Candidate) (p : Cursor) : Bool :=
  k.line < p.line || k.column + maxKeySize < p.column

/-- What a text has been read as: the tokens, the last one first, with their number; the columns of
the open blocks, the innermost first; the last candidate for a key in the innermost collection, and
those of the flow collections around it; whether a key may start here; and the names of anchors with
their numbers. -/
structure Layout where
  tokens : List Token
  count : Nat
  columns : List Nat
  candidate : Option Candidate
  outer : List (Option Candidate)
  keyAllowed : Bool
  anchors : List (String × Nat)
  deriving DecidableEq, Repr

namespace Layout

/-- The layout at the start of a text. -/
def start : Layout := ⟨[], 0, [], none, [], true, []⟩

/-- The place is inside a flow collection. -/
def inFlow (l : Layout) : Bool := !l.outer.isEmpty

/-- The first column at which a line continues the innermost block. -/
def nextColumn (l : Layout) : Nat :=
  match l.columns with
  | [] => 0
  | c :: _ => c + 1

/-- One more token. -/
def push (l : Layout) (t : Token) : Layout :=
  { l with tokens := t :: l.tokens, count := l.count + 1 }

/-- One more token in front of those from an index on. -/
def insertAt (l : Layout) (index : Nat) (t : Token) : Layout :=
  let later := l.count - index
  { l with tokens := l.tokens.take later ++ t :: l.tokens.drop later, count := l.count + 1 }

/-- Whether keys may start from here on. -/
def allow (l : Layout) (b : Bool) : Layout := { l with keyAllowed := b }

/-- The blocks to the right of a column are closed; without a column, all of them. -/
def close (column : Option Nat) (l : Layout) : Layout :=
  if l.inFlow then l
  else
    let open_ := l.columns.dropWhile fun c => column.all (· < c)
    let ended := l.columns.length - open_.length
    { l with
      tokens := List.replicate ended .blockEnd ++ l.tokens
      count := l.count + ended
      columns := open_ }

/-- A block is opened at a column, unless one is open there; its token stands at an index. -/
def openAt (l : Layout) (column index : Nat) (t : Token) : Layout :=
  if l.inFlow then l
  else if l.columns.all (· < column) then
    { l.insertAt index t with columns := column :: l.columns }
  else l

/-- The candidate is no key. -/
def dismiss (l : Layout) : Option Layout :=
  match l.candidate with
  | some k => if k.required then none else some { l with candidate := none }
  | none => some l

/-- The candidate of a collection at a place. -/
def keepFresh? (p : Cursor) : Option Candidate → Option (Option Candidate)
  | none => some none
  | some k => if !k.isStale p then some (some k) else if k.required then none else some none

/-- The candidates that may still be keys at a place. -/
def refresh (l : Layout) (p : Cursor) : Option Layout := do
  let candidate ← keepFresh? p l.candidate
  let outer ← l.outer.mapM (keepFresh? p)
  return { l with candidate := candidate, outer := outer }

/-- A node starts at a place. Where a block continues in its column, the node has to be a key. -/
def startNode (l : Layout) (p : Cursor) : Option Layout :=
  if l.keyAllowed then do
    let required := !l.inFlow && l.columns.head? == some p.column
    let l ← l.dismiss
    return { l with candidate := some ⟨required, l.count, p.line, p.column⟩ }
  else some l

/-- A flow collection starts at a place. -/
def enterFlow (l : Layout) (p : Cursor) (t : Token) : Option Layout := do
  let l ← l.startNode p
  return ({ l with candidate := none, outer := l.candidate :: l.outer }.push t).allow true

/-- A flow collection ends. -/
def leaveFlow (l : Layout) (t : Token) : Option Layout := do
  let l ← l.dismiss
  let l : Layout :=
    match l.outer with
    | [] => l
    | k :: outer => { l with candidate := k, outer := outer }
  return (l.push t).allow false

/-- A comma. -/
def comma (l : Layout) : Option Layout := do
  return ((← l.dismiss).push .comma).allow true

/-- A dash in front of an item. -/
def dash (l : Layout) (p : Cursor) : Option Layout :=
  if !l.inFlow && !l.keyAllowed then none
  else do
    let l ← (l.openAt p.column l.count .blockSequence).dismiss
    return (l.push .dash).allow true

/-- A question mark in front of a key. -/
def key (l : Layout) (p : Cursor) : Option Layout :=
  if !l.inFlow && !l.keyAllowed then none
  else do
    let l ← (l.openAt p.column l.count .blockMapping).dismiss
    return (l.push .key).allow (!l.inFlow)

/-- A colon: after a candidate, which becomes a key, or after a key with a question mark. -/
def value (l : Layout) (p : Cursor) : Option Layout :=
  match l.candidate with
  | some k =>
    let l := (l.insertAt k.index .key).openAt k.column k.index .blockMapping
    some (({ l with candidate := none }.push .value).allow false)
  | none =>
    if !l.inFlow && !l.keyAllowed then none
    else
      let l := l.openAt p.column l.count .blockMapping
      some ((l.push .value).allow (!l.inFlow))

/-- An anchor of a name. -/
def anchor (l : Layout) (name : String) : Layout :=
  let number := l.anchors.length
  { l with anchors := (name, number) :: l.anchors.filter (·.1 != name) }.push (.anchor number)

/-- A reference to the last anchor of a name. -/
def alias? (l : Layout) (name : String) : Option Layout :=
  (l.anchors.lookup name).map fun number => l.push (.alias number)

/-- All blocks end, and no candidate is left. -/
def finish (l : Layout) : Option Layout := do
  return (← (l.close none).dismiss).allow false

end Layout

/-! ## Directives -/

/-- A name, after which a blank or the end of the line follows. -/
def readDirectiveName? (p : Cursor) : Option (String × Cursor) :=
  let name := p.run isNameChar
  let p := p.skip name.length
  if !name.isEmpty && atGap p.rest then some (String.ofList name, p) else none

/-- A number of at most nine digits. -/
def readVersionNumber? (p : Cursor) : Option (Nat × Cursor) :=
  let ds := p.run Char.isDigit
  if ds.length ≤ 9 then (digits? 10 ds).map fun n => (n, p.skip ds.length) else none

/-- The octets of the characters `%XX` at the start, as many as the first one announces. -/
def readOctets? (p : Cursor) : Nat → Option (Bytes × Cursor)
  | 0 => some ([], p)
  | n + 1 =>
    match p.rest with
    | '%' :: a :: b :: _ => do
      let octet ← digits? 16 [a, b]
      let (octets, q) ← readOctets? (p.skip 3) n
      return (UInt8.ofNat octet :: octets, q)
    | _ => none

/-- The number of octets of the encoding that starts with an octet. -/
def encodedSize? (octet : Nat) : Option Nat :=
  if octet < 0x80 then some 1
  else if octet < 0xC0 then none
  else if octet < 0xE0 then some 2
  else if octet < 0xF0 then some 3
  else if octet < 0xF8 then some 4
  else none

/-- The character of an escape in a tag; octets that encode none stand for the replacement
character. -/
def readTagEscape? (p : Cursor) : Option (List Char × Cursor) := do
  let (first, _) ← readOctets? p 1
  let size ← first.head?.bind fun b => encodedSize? b.toNat
  let (octets, q) ← readOctets? p size
  if octets.tail.all fun b => 0x80 ≤ b && b < 0xC0 then
    return (((Utf8.decode? octets).getD "\uFFFD").toList, q)
  else none

/-- A character of a tag; three more may stand in a tag between angle brackets. -/
def isTagChar (verbatim : Bool) (c : Char) : Bool :=
  isNameChar c || ";/?:@&=+$.%!~*'()".toList.contains c
    || (verbatim && (c == ',' || c == '[' || c == ']'))

/-- The characters of a tag with escapes undone. -/
def readTagChars? (verbatim : Bool) : Nat → Cursor → Option (List Char × Cursor)
  | 0, _ => none
  | fuel + 1, p =>
    match p.rest with
    | [] => some ([], p)
    | c :: _ =>
      if !isTagChar verbatim c then some ([], p)
      else do
        let (ds, q) ← if c = '%' then readTagEscape? p else some ([c], p.next)
        let (cs, q) ← readTagChars? verbatim fuel q
        return (ds ++ cs, q)

/-- The handle of a tag: an exclamation mark, and perhaps a name with another one after it. -/
def readHandle? (p : Cursor) : Option (List Char × Cursor) :=
  if p.sees '!' then
    let name := p.next.run isNameChar
    let q := p.next.skip name.length
    if q.sees '!' then some ('!' :: name ++ ['!'], q.next) else some ('!' :: name, q)
  else none

/-- The directive for a version, after its name. -/
def readVersion? (p : Cursor) : Option (Token × Cursor) := do
  let (major, p) ← readVersionNumber? (p.skipWhile isBlank)
  if p.sees '.' then
    let (minor, p) ← readVersionNumber? p.next
    return (.version major minor, p)
  else none

/-- The directive for a handle, after its name. -/
def readTagHandle? (fuel : Nat) (p : Cursor) : Option (Token × Cursor) := do
  let (handle, p) ← readHandle? (p.skipWhile isBlank)
  if handle.length ≠ 1 ∧ (handle.length < 2 ∨ handle.getLast? ≠ some '!') then none
  if !(p.rest.head?.any isBlank) then none
  let p := p.skipWhile isBlank
  let (lead, q) ← readTagChars? true fuel p
  if q = p ∨ !atGap q.rest then none
  return (.tagHandle (String.ofList handle) (String.ofList lead), q)

/-- A directive from its percent sign on, with the rest of its line. -/
def readDirective? (fuel : Nat) (p : Cursor) : Option (Token × Cursor) := do
  let (name, p) ← readDirectiveName? p.next
  let (t, p) ←
    match name with
    | "YAML" => readVersion? p
    | "TAG" => readTagHandle? fuel p
    | _ => none
  return (t, ← p.lineEnd?)

/-! ## Properties -/

/-- The name of an anchor or an alias, after its indicator. -/
def readAnchorName? (p : Cursor) : Option (String × Cursor) :=
  let name := p.run isNameChar
  let p := p.skip name.length
  let ends := atGap p.rest || p.rest.head?.any ("?:,]\x7d%@\x60".toList.contains ·)
  if !name.isEmpty && ends then some (String.ofList name, p) else none

/-- A tag between angle brackets, after the opening one. -/
def readVerbatimTag? (fuel : Nat) (p : Cursor) : Option (Token × Cursor) := do
  let (suffix, q) ← readTagChars? true fuel p
  if q = p ∨ !q.sees '>' then none else return (.tag "" (String.ofList suffix), q.next)

/-- A tag with a handle of its own, or with the exclamation mark as its handle. A mark alone is a
tag without handle. -/
def readShortTag? (fuel : Nat) (p : Cursor) : Option (Token × Cursor) := do
  let (handle, q) ← readHandle? p
  let (suffix, r) ← readTagChars? false fuel q
  if 1 < handle.length ∧ handle.getLast? = some '!' then
    if r = q then none else return (.tag (String.ofList handle) (String.ofList suffix), r)
  else
    let suffix := handle.drop 1 ++ suffix
    if suffix.isEmpty then return (.tag "" "!", r) else return (.tag "!" (String.ofList suffix), r)

/-- A tag. -/
def readTag? (fuel : Nat) (inFlow : Bool) (p : Cursor) : Option (Token × Cursor) := do
  let (t, p) ←
    match p.next.rest with
    | '<' :: _ => readVerbatimTag? fuel (p.skip 2)
    | _ => readShortTag? fuel p
  if atGap p.rest || (inFlow && p.sees ',') then return (t, p) else none

/-! ## Texts -/

/-- A plain scalar can start here. -/
def startsPlain (inFlow : Bool) : List Char → Bool
  | [] => false
  | c :: s =>
    if c = '-' then !s.head?.any isBlank
    else if c = '?' ∨ c = ':' then !inFlow && !atGap s
    else !(isGap c || isFlowMark c || "#&*!|>'\"%@\x60".toList.contains c)

/-- The place of the next token: behind blanks, comments and ends of lines. A tab is a blank only
where no key may start. After the end of a line in a block a key may start. -/
def skipToToken : Nat → Layout → Cursor → Layout × Cursor
  | 0, l, p => (l, p)
  | fuel + 1, l, p =>
    let p := if p.column = 0 ∧ p.sees '\uFEFF' then p.next else p
    let p := p.skipWhile fun c => c == ' ' || (c == '\t' && (l.inFlow || !l.keyAllowed))
    let p := p.skipComment
    match p.rest with
    | c :: _ =>
      if isBreak c then skipToToken fuel (if l.inFlow then l else l.allow true) p.next else (l, p)
    | [] => (l, p)

/-- The layout and the place after the token that starts here. -/
def step? (fuel : Nat) (l : Layout) (p : Cursor) : Option (Layout × Cursor) :=
  match p.rest with
  | [] => none
  | c :: s =>
    if p.column = 0 ∧ c = '%' then do
      let l ← l.finish
      let (t, p) ← readDirective? fuel p
      return (l.push t, p)
    else if p.atMark then do
      let l ← l.finish
      return (l.push (if c = '-' then .documentStart else .documentEnd), p.skip 3)
    else if c = '[' then (l.enterFlow p .openBracket).map fun l => (l, p.next)
    else if c = '\x7b' then (l.enterFlow p .openBrace).map fun l => (l, p.next)
    else if c = ']' then (l.leaveFlow .closeBracket).map fun l => (l, p.next)
    else if c = '\x7d' then (l.leaveFlow .closeBrace).map fun l => (l, p.next)
    else if c = ',' then l.comma.map fun l => (l, p.next)
    else if c = '-' ∧ atGap s then (l.dash p).map fun l => (l, p.next)
    else if c = '?' ∧ (l.inFlow ∨ atGap s) then (l.key p).map fun l => (l, p.next)
    else if c = ':' ∧ (l.inFlow ∨ atGap s) then (l.value p).map fun l => (l, p.next)
    else if c = '*' then do
      let (name, q) ← readAnchorName? p.next
      return ((← (← l.startNode p).alias? name).allow false, q)
    else if c = '&' then do
      let (name, q) ← readAnchorName? p.next
      return (((← l.startNode p).anchor name).allow false, q)
    else if c = '!' then do
      let (t, q) ← readTag? fuel l.inFlow p
      return (((← l.startNode p).push t).allow false, q)
    else if (c = '|' ∨ c = '>') ∧ !l.inFlow then do
      let (text, q) ← readBlock fuel (c == '|') l.columns.head? p.next
      let style := if c = '|' then .literal else .folded
      return (((← l.dismiss).push (.scalar text style)).allow true, q)
    else if c = '"' ∨ c = '\'' then do
      let (text, q) ← readQuoted fuel (c == '"') p
      let style := if c = '"' then .doubleQuoted else .singleQuoted
      return (((← l.startNode p).push (.scalar text style)).allow false, q)
    else if startsPlain l.inFlow p.rest then do
      let l ← l.startNode p
      let (text, ended, q) ← readPlain fuel l.inFlow l.nextColumn p
      return ((l.push (.scalar text .plain)).allow ended, q)
    else none

/-- The tokens from a place on, the last one first. -/
def readTokens? : Nat → Layout → Cursor → Option (List Token)
  | 0, _, _ => none
  | fuel + 1, l, p =>
    let (l, p) := skipToToken (p.rest.length + 1) l p
    match l.refresh p with
    | none => none
    | some l =>
      let l := l.close (some p.column)
      if p.rest.isEmpty then l.finish.map (·.tokens)
      else
        match step? (p.rest.length + 1) l p with
        | some (l, p) => readTokens? fuel l p
        | none => none

/-- The tokens of a text. -/
def Token.ofText? (s : String) : Option (List Token) := do
  let p ← Cursor.ofText? s
  let tokens ← readTokens? (p.rest.length + 1) .start p
  return tokens.reverse

end HttpStub.Yaml
