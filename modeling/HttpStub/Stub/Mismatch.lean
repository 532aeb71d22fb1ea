import HttpStub.Stub.Selection

/-!
# The report on a request without a stub

## Main definitions

* `HttpStub.Timestamp` — a point in time, in milliseconds.
* `HttpStub.Timestamp.text` — date and time of day.
* `HttpStub.cut`, `HttpStub.padRight` — texts fitted to the width of a column.
* `HttpStub.Selection.report` — the report.

## Design

The report has two columns, what the closest stub asks for and what the request has. Widths count
characters.
-/

namespace HttpStub

/-! ## Points in time -/

/-- Milliseconds since the start of 1970, in universal time. -/
structure Timestamp where
  milliseconds : Int
  deriving DecidableEq, Repr

/-- A natural with at least so many digits. -/
def zeroPadded (width n : Nat) : String :=
  let ds := Nat.toDigits 10 n
  String.ofList (List.replicate (width - ds.length) '0' ++ ds)

/-- A date of the Gregorian calendar. -/
structure Date where
  year : Int
  month : Nat
  day : Nat
  deriving DecidableEq, Repr

/-- The date so many days after the start of 1970. The year is counted from March, so that the day
of a leap year comes last. -/
def Date.ofDays (days : Int) : Date :=
  let z := days + 719468
  let era := z.fdiv 146097
  let dayOfEra := (z - era * 146097).toNat
  let yearOfEra := (dayOfEra - dayOfEra / 1460 + dayOfEra / 36524 - dayOfEra / 146096) / 365
  let dayOfYear := dayOfEra - (365 * yearOfEra + yearOfEra / 4 - yearOfEra / 100)
  let m := (5 * dayOfYear + 2) / 153
  let month := if m < 10 then m + 3 else m - 9
  let year : Int := yearOfEra + era * 400
  ⟨if month ≤ 2 then year + 1 else year, month, dayOfYear - (153 * m + 2) / 5 + 1⟩

/-- The year with four digits, and with a sign where four digits do not do. -/
def yearText (year : Int) : String :=
  if 0 ≤ year ∧ year ≤ 9999 then zeroPadded 4 year.toNat
  else (if year < 0 then "-" else "+") ++ zeroPadded 4 year.natAbs

/-- Date and time of day with milliseconds. -/
def Timestamp.text (t : Timestamp) : String :=
  let days := t.milliseconds.fdiv 86400000
  let rest := (t.milliseconds - days * 86400000).toNat
  let date := Date.ofDays days
  yearText date.year ++ "-" ++ zeroPadded 2 date.month ++ "-" ++ zeroPadded 2 date.day ++ " "
    ++ zeroPadded 2 (rest / 3600000) ++ ":" ++ zeroPadded 2 (rest / 60000 % 60) ++ ":"
    ++ zeroPadded 2 (rest / 1000 % 60) ++ "." ++ zeroPadded 3 (rest % 1000)

/-! ## Columns -/

/-- The text with blanks after it up to a width. -/
def padRight (width : Nat) (s : String) : String :=
  String.ofList (s.toList ++ List.replicate (width - s.length) ' ')

/-- The text of at most so many characters, ending in three dots where it is cut. -/
def cut (width : Nat) (s : String) : String :=
  if s.length ≤ width then s else String.ofList (s.toList.take (width - 3) ++ ['.', '.', '.'])

/-- The width of a column. -/
def columnWidth : Nat := 58

/-- A line without content. -/
def blankLine : String :=
  padRight (columnWidth + 1) "" ++ " |"

/-- The line between the parts of the report. -/
def separatorLine : String :=
  String.ofList (List.replicate 119 '-')

/-- Where the request's target is broken in two. -/
def targetSplit : Nat := columnWidth - 6

/-! ## Lines -/

/-- The line on a difference: what the stub asks for on the left, and on the right what the request
has, in a space that `margin` makes narrower. -/
def Difference.line (d : Difference) (left label : String) (margin : Nat) : String :=
  let left := padRight columnWidth (cut columnWidth left) ++ " | "
  match d.kind with
  | .absent =>
    let note := "<<<<< " ++ label ++ " is not present"
    left ++ String.ofList (List.replicate (columnWidth + 1 - note.length) ' ') ++ note
  | .mismatch =>
    let width := columnWidth - margin
    let actual := d.name ++ ": " ++ ",".intercalate d.actual
    left ++ padRight width (cut width actual) ++ "<<<<< " ++ label ++ " does not match"

/-- The line on a difference in the parameters. -/
def Difference.queryLine (d : Difference) : String :=
  d.line (" Query: " ++ d.name ++ " exactly [" ++ " ".intercalate d.expected ++ "]") "Query" 26

/-- The line on a difference in the headers. -/
def Difference.headerLine (d : Difference) : String :=
  d.line (" Header: " ++ d.name ++ " [" ++ " ".intercalate d.expected ++ "]") "Header" 27

/-- The text of a target that fits beside the note that it does not match. -/
def firstTargetPart (target : String) : String :=
  cut targetSplit target

/-- The text of a target that goes to a line of its own. -/
def secondTargetPart (target : String) : String :=
  String.ofList (target.toList.drop targetSplit)

/-- The lines on the target. -/
def targetLines (matched : Bool) (expected target : String) : List String :=
  let left := " [path] " ++ padRight (columnWidth - 8) (cut (columnWidth - 8) expected) ++ " | "
  if matched then [left ++ padRight columnWidth (cut columnWidth target)]
  else
    let rest := secondTargetPart target
    (left ++ firstTargetPart target ++ "<<<<< URL does not match") ::
      if rest.isEmpty then [] else [" " ++ padRight (columnWidth - 1) "" ++ " | " ++ rest]

/-- The lines on the stub that is named. -/
def stubLines (method target : String) (s : Selection) (stub : Stub) : List String :=
  [blankLine]
    ++ (match nonEmpty? stub.name with
      | some n => [padRight (columnWidth + 1) (" " ++ n) ++ " |"]
      | none => [])
    ++ [blankLine, padRight columnWidth (" " ++ stub.request.method) ++ " | " ++ method]
    ++ targetLines s.verdict.url stub.request.urlMatch.text target
    ++ [blankLine]
    ++ s.verdict.queryDifferences.map Difference.queryLine
    ++ s.verdict.headerDifferences.map Difference.headerLine
    ++ (if s.bodyDiffers then
        [" " ++ padRight (columnWidth - 1) "Body [equalToJson]" ++ " | <<<<< Body does not match"]
      else [])

/-- The lines of the report. -/
def Selection.reportLines (s : Selection) (method target time : String) : List String :=
  let indent := padRight 47 ""
  [time ++ " ", indent ++ "Request was not matched", indent ++ "=======================", "",
      separatorLine,
      "| " ++ padRight columnWidth "Closest stub" ++ " | " ++ padRight columnWidth "Request" ++
        " |",
      separatorLine]
    ++ (match s.stub with
      | some stub => stubLines method target s stub
      | none => [" No stub found for: " ++ method ++ " " ++ target])
    ++ [blankLine, blankLine, separatorLine]

/-- The report on a request, with the text of the point in time. Every line ends in a line break. -/
def Selection.report (s : Selection) (method target time : String) : String :=
  String.join ((s.reportLines method target time).map (· ++ "\n"))

end HttpStub
