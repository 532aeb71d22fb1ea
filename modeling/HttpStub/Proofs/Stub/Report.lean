import HttpStub.Stub.Mismatch
import Mathlib.Data.List.Basic
import Mathlib.Tactic.Common

set_option autoImplicit false

/-!
# The target in a report

If the target of a request is the reason why no stub fits, the report shows it beside what the stub
asks for. A target that is too long there is cut and goes on in the next line. This module reads the
target off the two lines again: the next line takes up the target after the place where the first
one breaks it in two, but the dots at the end of the first one stand for three characters before
that place, and these are not shown.

## Main definitions

* `HttpStub.readTarget?` — the target that two lines show.
* `HttpStub.Selection.shownTarget?` — the target that a report shows.

## Main results

* `HttpStub.Selection.exists_drop_reportLines` — where the lines on the target are.
* `HttpStub.Selection.shownTarget?_of_le`, `HttpStub.Selection.shownTarget?_of_lt` — what a report
  shows of short and of long targets.
* `HttpStub.Selection.shows_target_iff` — which targets a report shows in full.
-/

namespace HttpStub

/-! ## Reading the lines on the target -/

/-- The note beside a target that does not match. -/
def targetNote : String := "<<<<< URL does not match"

/-- The characters in the column of the request. It is separated from the column of the stub by a
bar between blanks. -/
def requestColumn (line : String) : List Char :=
  line.toList.drop (columnWidth + 3)

/-- A cell without the dots that show where it is cut. -/
def withoutDots (cell : List Char) : List Char :=
  (cell.dropSuffix? ['.', '.', '.']).getD cell

/-- The target that two lines show. The first line has it before the note. If it goes on in the next
line, it is cut in the first one. -/
def readTarget? (first next : String) : Option String :=
  ((requestColumn first).dropSuffix? targetNote.toList).map fun cell =>
    if (requestColumn next).isEmpty then String.ofList cell
    else String.ofList (withoutDots cell ++ requestColumn next)

/-- How many lines come before those on the target. There is a line for the name of the stub if it
has one. -/
def targetPlace (stub : Stub) : Nat :=
  if (nonEmpty? stub.name).isSome then 11 else 10

/-- The target that the report on a request shows. -/
def Selection.shownTarget? (s : Selection) (method target time : String) : Option String :=
  s.stub.bind fun stub =>
    match (s.reportLines method target time).drop (targetPlace stub) with
    | first :: next :: _ => readTarget? first next
    | _ => none

/-! ## Widths -/

section Widths

variable {width : Nat} {s left right : String} {cell : List Char}

/-- A short text is filled up to the width. -/
lemma length_padRight (h : s.length ≤ width) : (padRight width s).length = width := by
  rw [padRight, String.length_ofList, List.length_append, List.length_replicate,
    String.length_toList]
  omega

/-- A short text is not cut. -/
lemma cut_of_le (h : s.length ≤ width) : cut width s = s :=
  if_pos h

/-- A long text is cut, and three dots take the place of its last characters. -/
lemma toList_cut_of_lt (h : width < s.length) :
    (cut width s).toList = s.toList.take (width - 3) ++ ['.', '.', '.'] := by
  rw [cut, if_neg (Nat.not_le.2 h), String.toList_ofList]

/-- A text that is cut has the width at most. -/
lemma length_cut_le (hwidth : 3 ≤ width) : (cut width s).length ≤ width := by
  rcases Nat.lt_or_ge width s.length with h | h
  · rw [← String.length_toList, toList_cut_of_lt h, List.length_append, List.length_take]
    simp only [List.length_cons, List.length_nil]
    omega
  · rwa [cut_of_le h]

/-- What follows the column of the stub is the column of the request. -/
lemma requestColumn_append (h : left.length = columnWidth + 3) :
    requestColumn (left ++ right) = right.toList := by
  rw [requestColumn, String.toList_append, ← h, ← String.length_toList, List.drop_left]

/-- A blank line has nothing in the column of the request. -/
lemma requestColumn_blankLine : requestColumn blankLine = [] := by
  decide

/-- The end of a text can be taken off. -/
lemma dropSuffix?_append (l r : List Char) : (l ++ r).dropSuffix? r = some l :=
  List.dropSuffix?_eq_some_iff.2 ⟨r, rfl, BEq.rfl⟩

end Widths

/-! ## The lines on the target -/

/-- The line with the note that the target does not match. -/
def targetLine (expected target : String) : String :=
  " [path] " ++ padRight (columnWidth - 8) (cut (columnWidth - 8) expected) ++ " | " ++
    firstTargetPart target ++ targetNote

/-- The line in which a long target goes on. -/
def restLine (target : String) : String :=
  " " ++ padRight (columnWidth - 1) "" ++ " | " ++ secondTargetPart target

section Lines

variable {expected target : String}

/-- **A target that does not match** has a line of its own, and a second one if it is long. -/
lemma targetLines_false (expected target : String) :
    targetLines false expected target = targetLine expected target ::
      if target.length ≤ targetSplit then [] else [restLine target] := by
  have hrest : (secondTargetPart target).isEmpty = true ↔ target.length ≤ targetSplit := by
    rw [secondTargetPart, String.isEmpty_iff, ← String.toList_eq_nil_iff, String.toList_ofList,
      List.drop_eq_nil_iff, String.length_toList]
  simp only [targetLines, Bool.false_eq_true, if_false, hrest]
  rfl

/-- The first line shows the target up to the cut, and the note. -/
lemma requestColumn_targetLine :
    requestColumn (targetLine expected target) =
      (cut targetSplit target).toList ++ targetNote.toList := by
  have hstub : (" [path] " ++ padRight (columnWidth - 8) (cut (columnWidth - 8) expected) ++
      " | ").length = columnWidth + 3 := by
    rw [String.length_append, String.length_append, length_padRight (length_cut_le (by decide))]
    rfl
  rw [targetLine, String.append_assoc, requestColumn_append hstub, String.toList_append]
  rfl

/-- The next line shows the target from the place where the first one breaks it. -/
lemma requestColumn_restLine :
    requestColumn (restLine target) = target.toList.drop targetSplit := by
  have hstub : (" " ++ padRight (columnWidth - 1) "" ++ " | ").length = columnWidth + 3 := by
    decide
  rw [restLine, requestColumn_append hstub, secondTargetPart, String.toList_ofList]

/-- A short target is read off its line. -/
lemma readTarget?_of_le (h : target.length ≤ targetSplit) :
    readTarget? (targetLine expected target) blankLine = some target := by
  rw [readTarget?, requestColumn_targetLine, dropSuffix?_append, cut_of_le h,
    requestColumn_blankLine]
  exact congrArg some String.ofList_toList

/-- **A long target** lacks three characters when it is read off its lines. The first line ends
before them, and the second one starts after them. -/
lemma readTarget?_of_lt (h : targetSplit < target.length) :
    readTarget? (targetLine expected target) (restLine target) =
      some (String.ofList
        (target.toList.take (targetSplit - 3) ++ target.toList.drop targetSplit)) := by
  have hrest : (target.toList.drop targetSplit).isEmpty = false := by
    rw [List.isEmpty_eq_false_iff, ne_eq, List.drop_eq_nil_iff, String.length_toList]
    exact Nat.not_le.2 h
  rw [readTarget?, requestColumn_targetLine, dropSuffix?_append, toList_cut_of_lt h,
    requestColumn_restLine, hrest]
  simp only [Option.map_some, Bool.false_eq_true, if_false, withoutDots, dropSuffix?_append,
    Option.getD_some]

end Lines

/-! ## The target in a report -/

namespace Selection

variable {s : Selection} {stub : Stub} {method target time : String}

/-- **The lines on the target** stand at their place in the report, and a blank line follows. -/
lemma exists_drop_reportLines (hs : s.stub = some stub) (method target time : String) :
    ∃ rest, (s.reportLines method target time).drop (targetPlace stub) =
      targetLines s.verdict.url stub.request.urlMatch.text target ++ blankLine :: rest := by
  simp only [reportLines, hs, stubLines, targetPlace, List.append_assoc]
  -- the lines before them are the same in number for all stubs with a name, and for all without
  cases nonEmpty? stub.name with
  | none => exact ⟨_, rfl⟩
  | some name => exact ⟨_, rfl⟩

/-- What a report shows of a short target. -/
lemma shownTarget?_of_le (hs : s.stub = some stub) (hurl : s.verdict.url = false)
    (h : target.length ≤ targetSplit) : s.shownTarget? method target time = some target := by
  obtain ⟨rest, hrest⟩ := exists_drop_reportLines hs method target time
  rw [hurl, targetLines_false, if_pos h] at hrest
  simp only [shownTarget?, hs, Option.bind_some, hrest]
  exact readTarget?_of_le h

/-- What a report shows of a long target. -/
lemma shownTarget?_of_lt (hs : s.stub = some stub) (hurl : s.verdict.url = false)
    (h : targetSplit < target.length) :
    s.shownTarget? method target time =
      some (String.ofList
        (target.toList.take (targetSplit - 3) ++ target.toList.drop targetSplit)) := by
  obtain ⟨rest, hrest⟩ := exists_drop_reportLines hs method target time
  rw [hurl, targetLines_false, if_neg (Nat.not_le.2 h)] at hrest
  simp only [shownTarget?, hs, Option.bind_some, hrest]
  exact readTarget?_of_lt h

/-- **Which targets a report shows in full.** If the target is a reason why the closest stub does
not fit, the report on the request shows it in full exactly if it is not longer than the place where
it is broken in two. Of a longer target, it shows all but the three characters before this place.

**Proof sketch.** The lines on the target are read off the report. A short target stands in one of
them as it is. A long one is shown with three characters less than it has, so it is not shown in
full. -/
theorem shows_target_iff (hs : s.stub = some stub) (hurl : s.verdict.url = false)
    (method target time : String) :
    (s.shownTarget? method target time = some target ↔ target.length ≤ targetSplit) ∧
    (targetSplit < target.length →
      s.shownTarget? method target time =
        some (String.ofList
          (target.toList.take (targetSplit - 3) ++ target.toList.drop targetSplit))) := by
  refine ⟨⟨fun h => ?_, shownTarget?_of_le hs hurl⟩, shownTarget?_of_lt hs hurl⟩
  by_contra hlong
  rw [shownTarget?_of_lt hs hurl (Nat.not_le.1 hlong), Option.some.injEq] at h
  have hlength := congrArg String.length h
  rw [String.length_ofList, List.length_append, List.length_take, List.length_drop,
    String.length_toList, targetSplit, columnWidth] at hlength
  rw [targetSplit, columnWidth] at hlong
  omega

/-- The closest stub for a request with this target, where the only stub asks for another one. -/
def nearMiss (target : String) : Selection :=
  select (Request.ofTarget "GET" target)
    [{ Stub.blank with
      name := some "expected", request := { RequestPattern.blank with url := some "/expected" } }]

/-- A target that just fits is shown with the dots that it ends in. -/
theorem shows_target_of_dots :
    (nearMiss "/actual/0123456789/0123456789/0123456789/01234567...").verdict.url = false ∧
    (nearMiss "/actual/0123456789/0123456789/0123456789/01234567...").shownTarget? "GET"
      "/actual/0123456789/0123456789/0123456789/01234567..." "" =
        some "/actual/0123456789/0123456789/0123456789/01234567..." := by
  have hurl : (nearMiss "/actual/0123456789/0123456789/0123456789/01234567...").verdict.url =
      false := by decide
  exact ⟨hurl, (shows_target_iff rfl hurl "GET" _ "").1.2 (by decide)⟩

/-- A target that is too long for its line. -/
def longTarget : String := "/actual/0123456789/0123456789/0123456789/0123456789/0123456789"

/-- Not every target is shown in full: if it is too long for its line, three of its characters are
in neither of the two lines. -/
theorem not_forall_shows_target :
    ¬ ∀ (s : Selection) (stub : Stub) (method target time : String), s.stub = some stub →
      s.verdict.url = false → '\n' ∉ target.toList →
        s.shownTarget? method target time = some target := by
  intro h
  have hurl : (nearMiss longTarget).verdict.url = false := by decide
  have hfree : '\n' ∉ longTarget.toList := by decide
  have hshown := h _ _ "GET" _ "" rfl hurl hfree
  rw [shownTarget?_of_lt rfl hurl (by decide)] at hshown
  exact absurd (Option.some.inj hshown) (by decide)

end Selection

end HttpStub
