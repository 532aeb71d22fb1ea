/-!
# Cutting text at a separator

## Main definitions

* `HttpStub.Text.isBlank` — the characters with the property `White_Space`.
* `HttpStub.Text.pieces` — all pieces between the separators; an empty text has one empty piece.
* `HttpStub.Text.cut?` — the text before and after the first separator, if there is one.
* `HttpStub.Text.isInfix` — a text occurs inside another one.
* `HttpStub.Text.trim` — a text without the blanks at its two ends.
-/

namespace HttpStub.Text

/-- The characters with the property `White_Space`. -/
def isBlank (c : Char) : Bool :=
  let n := c.toNat
  (9 ≤ n && n ≤ 13) || n == 0x20 || n == 0x85 || n == 0xA0 || n == 0x1680
    || (0x2000 ≤ n && n ≤ 0x200A) || n == 0x2028 || n == 0x2029 || n == 0x202F
    || n == 0x205F || n == 0x3000

/-- The pieces between the characters for which `sep` holds. There is always at least one. -/
def pieces (sep : Char → Bool) : List Char → List (List Char)
  | [] => [[]]
  | c :: cs =>
    if sep c then [] :: pieces sep cs
    else
      match pieces sep cs with
      | [] => [[c]]
      | p :: ps => (c :: p) :: ps

/-- The text before and after the first `sep`. -/
def cut? (sep : Char) : List Char → Option (List Char × List Char)
  | [] => none
  | c :: cs =>
    if c = sep then some ([], cs)
    else (cut? sep cs).map fun (before, after) => (c :: before, after)

/-- The pieces of a text between the occurrences of one character. -/
def split (sep : Char) (s : String) : List String :=
  (pieces (· == sep) s.toList).map String.ofList

/-- `needle` occurs in the list at some place. -/
def isInfix (needle : List Char) : List Char → Bool
  | [] => needle.isEmpty
  | c :: cs => needle.isPrefixOf (c :: cs) || isInfix needle cs

/-- The text occurs inside `s`. -/
def occursIn (needle s : String) : Bool :=
  isInfix needle.toList s.toList

/-- The list without the members for which `p` holds at its two ends. -/
def trimList {α : Type} (p : α → Bool) (xs : List α) : List α :=
  ((xs.dropWhile p).reverse.dropWhile p).reverse

/-- The text without the characters for which `p` holds at its two ends. -/
def trim (p : Char → Bool) (s : String) : String :=
  String.ofList (trimList p s.toList)

/-- The text without its longest end of characters for which `p` holds. -/
def trimEnd (p : Char → Bool) (s : String) : String :=
  String.ofList ((s.toList.reverse.dropWhile p).reverse)

/-- There is always a piece, if only an empty one. -/
theorem pieces_ne_nil (sep : Char → Bool) (cs : List Char) : pieces sep cs ≠ [] := by
  cases cs with
  | nil => simp [pieces]
  | cons c cs =>
    unfold pieces
    split
    · simp
    · split <;> simp

end HttpStub.Text
