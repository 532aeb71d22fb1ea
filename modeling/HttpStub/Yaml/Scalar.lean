import HttpStub.Yaml.Cursor

/-!
# Scalars of a YAML text

## Main definitions

* `HttpStub.Yaml.Style` — how a scalar is written.
* `HttpStub.Yaml.readQuoted` — a scalar between quotation marks.
* `HttpStub.Yaml.readPlain` — a scalar without marks.
* `HttpStub.Yaml.readBlock` — a scalar of whole lines.

## Design

Each function gives the text of the scalar and the place after it; `fuel` bounds the number of
steps and is taken from the length of the text.
-/

namespace HttpStub.Yaml

/-- How a scalar is written. -/
inductive Style where
  | plain
  | singleQuoted
  | doubleQuoted
  | literal
  | folded
  deriving DecidableEq, Repr

/-! ## Numbers -/

/-- The value of a digit of a base up to sixteen. -/
def digit? (base : Nat) (c : Char) : Option Nat :=
  let n :=
    if c.isDigit then c.toNat - 48
    else if 'a' ≤ c ∧ c ≤ 'f' then c.toNat - 87
    else if 'A' ≤ c ∧ c ≤ 'F' then c.toNat - 55
    else 16
  if n < base then some n else none

/-- The number that digits spell after the ones that are read. -/
def digitsFrom (base acc : Nat) : List Char → Option Nat
  | [] => some acc
  | c :: cs => (digit? base c).bind fun d => digitsFrom base (acc * base + d) cs

/-- The number that at least one digit spells. -/
def digits? (base : Nat) (cs : List Char) : Option Nat :=
  if cs.isEmpty then none else digitsFrom base 0 cs

/-! ## Quoted scalars -/

/-- The character that a letter stands for after a backslash. -/
def letterEscape? (c : Char) : Option Char :=
  match c with
  | '0' => some '\x00'
  | 'a' => some '\x07'
  | 'b' => some '\x08'
  | 't' => some '\t'
  | '\t' => some '\t'
  | 'n' => some '\n'
  | 'v' => some '\x0b'
  | 'f' => some '\x0c'
  | 'r' => some '\r'
  | 'e' => some '\x1b'
  | ' ' => some ' '
  | '"' => some '"'
  | '/' => some '/'
  | '\\' => some '\\'
  | 'N' => some '\u0085'
  | '_' => some '\u00a0'
  | 'L' => some '\u2028'
  | 'P' => some '\u2029'
  | _ => none

/-- The number of digits of an escape by number. -/
def escapeWidth (c : Char) : Nat :=
  if c = 'x' then 2 else if c = 'u' then 4 else if c = 'U' then 8 else 0

/-- The character that an escape stands for, and the number of characters after the backslash. -/
def readEscape? : List Char → Option (Char × Nat)
  | [] => none
  | c :: s =>
    let width := escapeWidth c
    if width = 0 then (letterEscape? c).map fun d => (d, 1)
    else if s.length < width then none
    else
      match digits? 16 (s.take width) with
      | some n => if n.isValidChar then some (Char.ofNat n, width + 1) else none
      | none => none

/-- A scalar after its opening mark, which is a double one or a single one. The characters that are
read come first, the last one in front. -/
def readQuotedFrom (double : Bool) : Nat → List Char → Cursor → Option (List Char × Cursor)
  | 0, _, _ => none
  | fuel + 1, acc, p =>
    if p.atMark then none
    else
      match p.rest with
      | [] => none
      | c :: s =>
        if isGap c then
          let gap := p.run isGap
          readQuotedFrom double fuel ((foldGap gap).reverse ++ acc) (p.skip gap.length)
        else if double then
          if c = '"' then some (acc.reverse, p.next)
          else if c = '\\' then
            if s.head?.any isBreak then
              let p := p.skip 2
              let gap := p.run isGap
              readQuotedFrom double fuel ((gap.filter isBreak).reverse ++ acc) (p.skip gap.length)
            else do
              let (d, n) ← readEscape? s
              readQuotedFrom double fuel (d :: acc) ⟨s.drop n, p.line, p.column + 1 + n⟩
          else readQuotedFrom double fuel (c :: acc) p.next
        else if c = '\'' then
          if s.head? = some '\'' then readQuotedFrom double fuel ('\'' :: acc) (p.skip 2)
          else some (acc.reverse, p.next)
        else readQuotedFrom double fuel (c :: acc) p.next

/-- A quoted scalar, from its opening mark on. -/
def readQuoted (fuel : Nat) (double : Bool) (p : Cursor) : Option (String × Cursor) :=
  (readQuotedFrom double fuel [] p.next).map fun (cs, p) => (String.ofList cs, p)

/-! ## Plain scalars -/

/-- The characters up to the next gap, or to a mark that ends a plain scalar. Inside flow
collections a colon must not stand in front of a mark. -/
def plainWord? (flow : Bool) : List Char → Option (List Char)
  | [] => some []
  | c :: s =>
    if isGap c then some []
    else if flow && c == ':' && s.head?.any (fun d => isFlowMark d || d == '?') then none
    else if (c == ':' && atGap s) || (flow && isFlowMark c) then some []
    else (plainWord? flow s).map (c :: ·)

/-- A blank from a tab in the indentation of a line. -/
def tabInIndent (column : Nat) : Bool → Cursor → List Char → Bool
  | _, _, [] => false
  | newLine, p, c :: s =>
    (newLine && p.column < column && c == '\t') ||
      tabInIndent column (newLine || isBreak c) p.next s

/-- A plain scalar whose lines after the first start at a column or after it. The characters that
are read come first, the last one in front, and `gap` holds what comes before the next word. The
result tells whether the scalar is followed by the end of a line. -/
def readPlainFrom (flow : Bool) (column : Nat) :
    Nat → List Char → List Char → Cursor → Option (List Char × Bool × Cursor)
  | 0, _, _, _ => none
  | fuel + 1, acc, gap, p =>
    let stop := some (acc.reverse, gap.any isBreak, p)
    if p.atMark || p.sees '#' then stop
    else do
      let word ← plainWord? flow p.rest
      let (acc, gap) :=
        if word.isEmpty then (acc, gap) else (word.reverse ++ (foldGap gap).reverse ++ acc, [])
      let p := p.skip word.length
      let more := p.run isGap
      let next := p.skip more.length
      if more.isEmpty then some (acc.reverse, gap.any isBreak, p)
      else if tabInIndent column (gap.any isBreak) p more then none
      else if !flow && next.column < column then some (acc.reverse, (gap ++ more).any isBreak, next)
      else readPlainFrom flow column fuel acc (gap ++ more) next

/-- A plain scalar, whether the end of a line follows it, and the place after it. -/
def readPlain (fuel : Nat) (flow : Bool) (column : Nat) (p : Cursor) :
    Option (String × Bool × Cursor) :=
  (readPlainFrom flow column fuel [] [] p).map fun (cs, ended, p) => (String.ofList cs, ended, p)

/-! ## Block scalars -/

/-- What becomes of the ends of lines after a block scalar. -/
inductive Chomping where
  /-- All are left out. -/
  | strip
  /-- The first one is kept. -/
  | clip
  /-- All are kept. -/
  | keep
  deriving DecidableEq, Repr

/-- The chomping of a mark. -/
def chomping? (c : Char) : Option Chomping :=
  if c = '+' then some .keep else if c = '-' then some .strip else none

/-- The head of a block scalar after its indicator: the chomping and the indentation, in any
order. -/
def readBlockHead? (p : Cursor) : Option (Chomping × Option Nat × Cursor) :=
  let indentation (q : Cursor) : Option (Option Nat × Cursor) :=
    match q.rest with
    | c :: _ =>
      if c = '0' then none
      else if c.isDigit then some (some (c.toNat - 48), q.next)
      else some (none, q)
    | [] => some (none, q)
  match p.rest.head?.bind chomping? with
  | some k => do
    let (n, p) ← indentation p.next
    return (k, n, p)
  | none => do
    let (n, p) ← indentation p
    match n, p.rest.head?.bind chomping? with
    | some n, some k => return (k, some n, p.next)
    | n, _ => return (.clip, n, p)

/-- The ends of lines and the indentation in front of the next line with content: the ends of lines,
the widest indentation of a line, and the place. Without a column, all spaces are indentation. -/
def skipIndent (column : Option Nat) :
    Nat → List Char → Nat → Cursor → Option (List Char × Nat × Cursor)
  | 0, _, _, _ => none
  | fuel + 1, breaks, widest, p =>
    let spaces := p.run (· == ' ')
    let p := p.skip
      (match column with
      | none => spaces.length
      | some n => min spaces.length (n - p.column))
    let widest := max widest p.column
    if column.all (p.column < ·) && p.sees '\t' then none
    else
      match p.rest with
      | c :: _ =>
        if isBreak c then skipIndent column fuel (breaks ++ [c]) widest p.next
        else some (breaks, widest, p)
      | [] => some (breaks, widest, p)

/-- The lines of a block scalar from a column on: the text, the end of its last line, the further
ends of lines, and the place after them. `acc` is the text before, the last character in front;
`ended` is the end of the line before and `blank` tells that it started with a blank. -/
def readLines (literal : Bool) (column : Nat) :
    Nat → List Char → List Char → Bool → List Char → Cursor →
      Option (List Char × List Char × List Char × Cursor)
  | 0, _, _, _, _, _ => none
  | fuel + 1, acc, ended, blank, breaks, p =>
    match p.rest with
    | [] => some (acc, ended, breaks, p)
    | c :: _ =>
      if p.column ≠ column then some (acc, ended, breaks, p)
      else do
        let joint :=
          if !literal && ended == ['\n'] && !blank && !isBlank c then
            if breaks.isEmpty then [' '] else []
          else ended
        let line := p.run fun c => !isBreak c
        let p := p.skip line.length
        let ended := p.rest.take 1
        let (more, _, q) ← skipIndent (some column) fuel [] 0 p.next
        readLines literal column fuel (line.reverse ++ breaks.reverse ++ joint.reverse ++ acc) ended
          (isBlank c) more q

/-- A block scalar after its indicator, in a collection at a column. -/
def readBlock (fuel : Nat) (literal : Bool) (parent : Option Nat) (p : Cursor) :
    Option (String × Cursor) := do
  let (chomping, width, p) ← readBlockHead? p
  let p ← p.lineEnd?
  let given := width.map fun n => parent.getD 0 + n
  let (breaks, widest, p) ← skipIndent given fuel [] 0 p
  let least :=
    match parent with
    | some n => n + 1
    | none => 1
  let column := given.getD (max widest least)
  let (acc, ended, breaks, p) ← readLines literal column fuel [] [] false breaks p
  let tail :=
    match chomping with
    | .strip => []
    | .clip => ended
    | .keep => ended ++ breaks
  return (String.ofList (acc.reverse ++ tail), p)

end HttpStub.Yaml
