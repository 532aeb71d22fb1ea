import HttpStub.Regex.Unicode.Binary
import HttpStub.Regex.Unicode.Script

/-!
# Where text may be divided

What a character does to the division of a text into the characters that a reader sees, into words
and into sentences.

## Main definitions

* `HttpStub.Regex.ClusterBreak.all` — the parts in the division into characters.
* `HttpStub.Regex.WordBreak.all` — the parts in the division into words.
* `HttpStub.Regex.SentenceBreak.all` — the parts in the division into sentences.

## Design

A part has one list of names. The characters that take no part in a division make up no property of
this kind.
-/

namespace HttpStub.Regex

open Category Binary

/-! ## Shared sets -/

/-- The line feed and the carriage return, which each are a part of their own in every division. -/
def newlines : List Property :=
  [⟨["cr"], .single .exact '\r'⟩, ⟨["lf"], .single .exact '\n'⟩]

/-- The joiner of width zero. -/
def zeroWidthJoiner : CharSet := .single .exact '\u200d'

/-- The characters of the script with this name. -/
def scriptOf (name : String) : CharSet :=
  (Property.find? (scripts.map Script.property) name).getD .none

/-- Characters that extend the word or the sentence in front of them. -/
def extending : CharSet :=
  .union graphemeExtend.set spacingMark.set

/-- Signs that count as digits: those that enclose the digits after them, without the one of
Syriac. -/
def enclosingSigns : CharSet :=
  .diff prependedConcatenationMark.set (.single .exact '\u070f')

/-! ## Characters that a reader sees -/

namespace ClusterBreak

/-- The syllables of Hangul that end in a vowel: the first one of each 28. -/
def openSyllables : CharSet :=
  .table (((List.range 399).map fun k => (0xAC00 + 28 * k, 0xAC00 + 28 * k)).toArray)

/-- Characters that extend the one in front of them. -/
def extend : Property :=
  ⟨["extend", "ex"], .union graphemeExtend.set emojiModifier.set⟩

/-- Characters that stand alone. -/
def control : Property where
  names := ["control", "cn"]
  set := .diff
    (.unions [Category.control.set, lineSeparator.set, paragraphSeparator.set, format.set,
      .inter unassigned.set defaultIgnorable.set])
    (.unions [.single .exact '\r', .single .exact '\n', zeroWidthJoiner,
      prependedConcatenationMark.set, graphemeExtend.set])

/-- Characters that the next one extends. -/
def prepend : Property where
  names := ["prepend", "pp"]
  set := .union prependedConcatenationMark.set
    (.ofRanges "D4E 111C2-111C3 113D1 1193F 11941 11A3A 11A84-11A89 11D46 11F02")

/-- Marks with a place of their own that extend the character in front of them. -/
def spacing : Property where
  names := ["spacingmark", "sm"]
  set := .diff (.union spacingMark.set (.ofRanges "E33 EB3"))
    (.union extend.set (.ofRanges
      "102B-102C 1038 1062-1064 1067-106D 1083 1087-108C 108F 109A-109C 1A61 1A63-1A64 AA7B AA7D
      11720-11721"))

/-- The parts in the division into characters that a reader sees. -/
def all : List Property :=
  newlines ++
    [control, extend, prepend, spacing,
      ⟨["zwj"], zeroWidthJoiner⟩,
      ⟨["regionalindicator", "ri"], regionalIndicator.set⟩,
      ⟨["l"], .ofRanges "1100-115F A960-A97C"⟩,
      ⟨["v"], .ofRanges "1160-11A7 D7B0-D7C6 16D63 16D67-16D6A"⟩,
      ⟨["t"], .ofRanges "11A8-11FF D7CB-D7FB"⟩,
      ⟨["lv"], openSyllables⟩,
      ⟨["lvt"], .diff (.ofRanges "AC00-D7A3") openSyllables⟩]

end ClusterBreak

/-! ## Words -/

namespace WordBreak

/-- Characters that extend the word in front of them. -/
def extend : Property :=
  ⟨["extend"], .union extending emojiModifier.set⟩

/-- Characters of Katakana, those shared with Hiragana among them. -/
def katakana : Property where
  names := ["katakana", "ka"]
  set := .union (scriptOf "katakana") (.ofRanges "3031-3035 309B-309C 30A0 30FC FF70")

/-- Letters of Hebrew. -/
def hebrewLetter : Property :=
  ⟨["hebrewletter", "hl"], .inter (scriptOf "hebrew") otherLetter.set⟩

/-- Letters of scripts that are written without spaces between words. -/
def complexLetters : CharSet :=
  .ofRanges
    "E01-E30 E32-E33 E40-E46 E81-E82 E84 E86-E8A E8C-EA3 EA5 EA7-EB0 EB2-EB3 EBD EC0-EC4 EC6
    EDC-EDF 1000-102A 103F 1050-1055 105A-105D 1061 1065-1066 106E-1070 1075-1081 108E 1780-17B3
    17D7 17DC 1950-196D 1970-1974 1980-19AB 19B0-19C9 1A20-1A54 1AA7 A9E0-A9E4 A9E6-A9EF A9FA-A9FE
    AA60-AA76 AA7A AA7E-AAAF AAB1 AAB5-AAB6 AAB9-AABD AAC0 AAC2 AADB-AADD 11700-1171A 11740-11746"

/-- Letters of scripts with spaces between words. -/
def letter : Property where
  names := ["aletter", "le"]
  set := .union
    (.diff alphabetic.set
      (.unions [ideographic.set, katakana.set, scriptOf "hiragana", extend.set, hebrewLetter.set,
        complexLetters]))
    (.ofRanges
      "B8 2C2-2C5 2D2-2D7 2DE-2DF 2E5-2EB 2ED 2EF-2FF 55A-55C 55E 58A 5F3 70F A708-A716 A720-A721
      A789-A78A AB5B")

/-- The parts in the division into words. -/
def all : List Property :=
  newlines ++
    [extend, katakana, hebrewLetter, letter,
      ⟨["newline", "nl"], .ofRanges "B-C 85 2028-2029"⟩,
      ⟨["zwj"], zeroWidthJoiner⟩,
      ⟨["regionalindicator", "ri"], regionalIndicator.set⟩,
      ⟨["format", "fo"], .diff format.set
        (.unions [.ofRanges "200B 200D", graphemeExtend.set, prependedConcatenationMark.set])⟩,
      ⟨["singlequote", "sq"], .single .exact '\''⟩,
      ⟨["doublequote", "dq"], .single .exact '"'⟩,
      ⟨["midnumlet", "mb"], .ofRanges "2E 2018-2019 2024 FE52 FF07 FF0E"⟩,
      ⟨["midletter", "ml"], .ofRanges "3A B7 387 55F 5F4 2027 FE13 FE55 FF1A"⟩,
      ⟨["midnum", "mn"], .ofRanges
        "2C 3B 37E 589 60C-60D 66C 7F8 2044 FE10 FE14 FE50 FE54 FF0C FF1B"⟩,
      ⟨["numeric", "nu"], .unions [decimalNumber.set, .single .exact '\u066b', enclosingSigns]⟩,
      ⟨["extendnumlet", "ex"], .union connectorPunctuation.set (.single .exact '\u202f')⟩,
      ⟨["wsegspace"], .diff spaceSeparator.set (.ofRanges "A0 2007 202F")⟩]

end WordBreak

/-! ## Sentences -/

namespace SentenceBreak

/-- Characters that extend the sentence in front of them. -/
def extend : Property :=
  ⟨["extend", "ex"], .union extending zeroWidthJoiner⟩

/-- Small letters. -/
def lower : Property where
  names := ["lower", "lo"]
  set := .diff lowercase.set (.union graphemeExtend.set (.ofRanges "10D0-10FA 10FD-10FF"))

/-- Capital letters, and those at the start of a word. -/
def upper : Property where
  names := ["upper", "up"]
  set := .diff (.union uppercase.set titlecaseLetter.set) (.ofRanges "1C90-1CBA 1CBD-1CBF")

/-- Full stops, which may end more than a sentence. -/
def fullStop : Property :=
  ⟨["aterm", "at"], .ofRanges "2E 2024 FE52 FF0E"⟩

/-- The parts in the division into sentences. -/
def all : List Property :=
  newlines ++
    [extend, lower, upper, fullStop,
      ⟨["sep", "se"], .ofRanges "85 2028-2029"⟩,
      ⟨["format", "fo"], .diff format.set
        (.unions [zeroWidthJoiner, graphemeExtend.set, enclosingSigns])⟩,
      ⟨["sp"], .diff .space (.ofRanges "A D 85 2028-2029")⟩,
      ⟨["oletter", "le"], .diff (.union alphabetic.set (.single .exact '\u05f3'))
        (.unions [lower.set, upper.set, extend.set])⟩,
      ⟨["numeric", "nu"], .unions [decimalNumber.set, .ofRanges "66B-66C", enclosingSigns]⟩,
      ⟨["sterm", "st"], .diff sentenceTerminal.set fullStop.set⟩,
      ⟨["scontinue", "sc"], .ofRanges
        "2C-2D 3A-3B 37E 55D 60C-60D 7F8 1802 1808 2013-2014 3001 FE10-FE11 FE13-FE14 FE31-FE32
        FE50-FE51 FE54-FE55 FE58 FE63 FF0C-FF0D FF1A-FF1B FF64"⟩,
      ⟨["close", "cl"], .diff
        (.unions [openPunctuation.set, closePunctuation.set, initialPunctuation.set,
          finalPunctuation.set, quotationMark.set,
          .ofRanges "275B-2760 2E00-2E01 2E06-2E08 2E0B 1F676-1F678"])
        (.ofRanges "FF02 FF07")⟩]

end SentenceBreak

end HttpStub.Regex
