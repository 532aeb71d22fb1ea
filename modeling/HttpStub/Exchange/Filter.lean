import HttpStub.Log
import HttpStub.Regex.Match
import HttpStub.Text.Quoted

/-!
# Filters on request targets

## Main definitions

* `HttpStub.UrlFilter` — a condition on targets.
* `HttpStub.UrlFilter.ofPattern` — the condition that a pattern states.
* `HttpStub.UrlFilter.accepts` — the condition holds.
* `HttpStub.excludedPart?` — the part `X` of a pattern `((?!X).)*`.

## Design

Patterns that look ahead are no regular expressions, but one shape of them is in wide use: a text
that nowhere matches `X`. It is recognised by its two ends and turned into the negation of `X`.
-/

namespace HttpStub

/-- A condition on targets. -/
inductive UrlFilter where
  /-- The expression is found in the target. -/
  | containing (r : Regex)
  /-- The expression is not found in the target. -/
  | notContaining (r : Regex)
  /-- Every target. -/
  | any
  deriving DecidableEq, Repr

/-- The text after a given start. -/
def afterStart? (start s : List Char) : Option (List Char) :=
  if start.isPrefixOf s then some (s.drop start.length) else none

/-- The text before a given end. -/
def beforeEnd? (stop s : List Char) : Option (List Char) :=
  (afterStart? stop.reverse s.reverse).map List.reverse

/-- The part `X` of a pattern `((?!X).)*`, whose first parenthesis may be missing. It is not empty
and stays on one line. -/
def excludedPart? (pattern : List Char) : Option (List Char) := do
  let opened := (afterStart? ['('] pattern).getD pattern
  let tail ←
    match afterStart? ['(', '?', '!'] opened with
    | some t => some t
    | none => afterStart? ['(', '?', '!'] pattern
  let x ← beforeEnd? [')', '.', ')', '*'] tail
  if x.isEmpty || x.contains '\n' then none else some x

namespace UrlFilter

/-- The condition that a pattern states. A pattern that states none is passed by every target. -/
def ofPattern (pattern : String) : UrlFilter :=
  match Regex.compile? pattern with
  | some r => .containing r
  | none =>
    match (excludedPart? pattern.toList).bind fun x => Regex.compile? (String.ofList x) with
    | some r => .notContaining r
    | none => .any

/-- The condition holds for a target. -/
def accepts (f : UrlFilter) (target : String) : Bool :=
  match f with
  | .containing r => r.isFoundIn target
  | .notContaining r => !r.isFoundIn target
  | .any => true

/-- The events for the log when a pattern is turned into a condition. -/
def notices (f : UrlFilter) (pattern : String) : List Event :=
  match f with
  | .containing _ => []
  | .notContaining r =>
    [⟨.info, "Using negative lookahead filter: excluding URLs matching "
      ++ Text.quoted r.pattern⟩]
  | .any => [⟨.warn, "Unsupported URL filter pattern, matching everything: " ++ pattern⟩]

end UrlFilter

end HttpStub
