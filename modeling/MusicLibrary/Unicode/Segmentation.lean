import MusicLibrary.Unicode.Category
import MusicLibrary.Unicode.Property
import MusicLibrary.Unicode.Script

/-!
# Segmentation

Where a text may be parted into characters as a reader sees them, into words and into sentences is
told by three properties of the Unicode character database (version 16): the breaks of grapheme
clusters, of words and of sentences. Most of their values follow from categories, scripts and binary
properties. The value of the characters that have no other one cannot be asked for.
-/

namespace MusicLibrary.Unicode

def lineFeed : CodeSet := .single 0xA

def carriageReturn : CodeSet := .single 0xD

def zeroWidthJoiner : CodeSet := .single 0x200D

/-- Marks that belong to the character before them. -/
def attachedMarks : CodeSet := graphemeExtend.union categoryMc

/-- Signs that span the number after them. -/
def numberSigns : CodeSet := prependedConcatenationMark.diff (.single 0x70F)

/-- Digits, and what stands before or between the digits of a number. -/
def numericCharacters : CodeSet := .unions [categoryNd, numberSigns, .ofText "66B 19DA"]

/-- Characters of no width that neither join what is beside them nor belong to it. -/
def formatCharacters : CodeSet :=
  categoryCf.diff (.unions [graphemeExtend, zeroWidthJoiner, numberSigns])

/-! ## Grapheme clusters -/

/-- Characters that belong to the character after them. -/
def clusterPrepend : CodeSet :=
  prependedConcatenationMark.union
    (.ofText "D4E 111C2-111C3 113D1 1193F 11941 11A3A 11A84-11A89 11D46 11F02")

/-- Characters that stand alone in any case. -/
def clusterControl : CodeSet :=
  let unassigned := assigned.compl.inter defaultIgnorableCodePoint
  (CodeSet.unions [categoryCc, categoryCf, categoryZl, categoryZp, unassigned]).diff
    (.unions [lineFeed, carriageReturn, zeroWidthJoiner, graphemeExtend, clusterPrepend])

/-- Marks that take up room beside the character before them. -/
def clusterSpacing : CodeSet :=
  (categoryMc.union (.ofText "E33 EB3")).diff
    (graphemeExtend.union (.ofText
      "102B-102C 1038 1062-1064 1067-106D 1083 1087-108C 108F 109A-109C 1A61 1A63-1A64 AA7B AA7D
        11720-11721"))

/-- Syllables of Hangul without a final consonant: every twenty-eighth one of the block. -/
def hangulOpen : CodeSet := ⟨(List.range 399).map fun k => (0xAC00 + 28 * k, 0xAC00 + 28 * k)⟩

/-- The breaks of grapheme clusters, each with its names in loose form. -/
def clusterBreaks : List (List String × CodeSet) :=
  [(["cn", "control"], clusterControl),
   (["cr"], carriageReturn),
   (["ex", "extend"], graphemeExtend.union emojiModifier),
   (["l"], .ofText "1100-115F A960-A97C"),
   (["lf"], lineFeed),
   (["lv"], hangulOpen),
   (["lvt"], (CodeSet.range 0xAC00 0xD7A3).diff hangulOpen),
   (["pp", "prepend"], clusterPrepend),
   (["regionalindicator", "ri"], regionalIndicator),
   (["sm", "spacingmark"], clusterSpacing),
   (["t"], .ofText "11A8-11FF D7CB-D7FB"),
   (["v"], .ofText "1160-11A7 D7B0-D7C6 16D63 16D67-16D6A"),
   (["zwj"], zeroWidthJoiner)]

/-! ## Words -/

/-- The separators of lines other than those of ASCII. -/
def lineSeparators : CodeSet := .ofText "85 2028-2029"

def wordKatakana : CodeSet :=
  scriptKatakana.union (.ofText "3031-3035 309B-309C 30A0 30FC FF70")

def wordHebrew : CodeSet := scriptHebrew.inter categoryLo

/-- Letters of the scripts of Southeast Asia that part words only by their sense. -/
def unspacedLetters : CodeSet := .ofText
  "E01-E30 E32-E33 E40-E46 E81-E82 E84 E86-E8A E8C-EA3 EA5 EA7-EB0 EB2-EB3 EBD EC0-EC4 EC6
    EDC-EDF 1000-102A 103F 1050-1055 105A-105D 1061 1065-1066 106E-1070 1075-1081 108E 1780-17B3
    17D7 17DC 1950-196D 1970-1974 1980-19AB 19B0-19C9 1A20-1A54 1AA7 A9E0-A9E4 A9E6-A9EF
    A9FA-A9FE AA60-AA76 AA7A AA7E-AAAF AAB1 AAB5-AAB6 AAB9-AABD AAC0 AAC2 AADB-AADD 11700-1171A
    11740-11746"

/-- Characters of words that are no letters. -/
def letterlike : CodeSet := .ofText
  "2C2-2C5 2D2-2D7 2DE-2DF 2E5-2EB 2ED 2EF-2FF 55A-55C 55E 58A 5F3 70F A708-A716 A720-A721
    A789-A78A AB5B"

def wordExtend : CodeSet := attachedMarks.union emojiModifier

def wordLetters : CodeSet :=
  (alphabetic.union letterlike).diff
    (.unions [ideographic, scriptHiragana, unspacedLetters, wordKatakana, wordHebrew, wordExtend])

/-- The breaks of words, each with its names in loose form. -/
def wordBreaks : List (List String × CodeSet) :=
  [(["aletter", "le"], wordLetters),
   (["cr"], carriageReturn),
   (["doublequote", "dq"], .single 0x22),
   (["extend"], wordExtend),
   (["ex", "extendnumlet"], categoryPc.union (.single 0x202F)),
   (["fo", "format"], formatCharacters.diff (.ofText "70F 200B")),
   (["hebrewletter", "hl"], wordHebrew),
   (["ka", "katakana"], wordKatakana),
   (["lf"], lineFeed),
   (["midletter", "ml"], .ofText "3A B7 387 55F 5F4 2027 FE13 FE55 FF1A"),
   (["midnum", "mn"], .ofText "2C 3B 37E 589 60C-60D 66C 7F8 2044 FE50 FE54 FF0C FF1B"),
   (["mb", "midnumlet"], .ofText "2E 2018-2019 2024 FE52 FF07 FF0E"),
   (["newline", "nl"], lineSeparators.union (.range 0xB 0xC)),
   (["nu", "numeric"], numericCharacters),
   (["regionalindicator", "ri"], regionalIndicator),
   (["singlequote", "sq"], .single 0x27),
   (["wsegspace"], categoryZs.diff (.ofText "A0 2007 202F")),
   (["zwj"], zeroWidthJoiner)]

/-! ## Sentences -/

/-- Full stops, which also stand within numbers and after short forms. -/
def sentenceStops : CodeSet := .ofText "2E 2024 FE52 FF0E"

def sentenceExtend : CodeSet := attachedMarks.union zeroWidthJoiner

/-- Small letters; those of Georgian do not tell how a sentence goes on. -/
def sentenceLower : CodeSet := lowercase.diff (graphemeExtend.union (.ofText "10D0-10FA 10FD-10FF"))

def sentenceUpper : CodeSet :=
  (uppercase.union categoryLt).diff (.ofText "1C90-1CBA 1CBD-1CBF")

/-- The breaks of sentences, each with its names in loose form. -/
def sentenceBreaks : List (List String × CodeSet) :=
  [(["at", "aterm"], sentenceStops),
   (["cl", "close"], .unions [categoryPs, categoryPe, categoryPi, categoryPf,
      .ofText "22 27 275B-2760 2E00-2E01 2E06-2E08 2E0B 1F676-1F678"]),
   (["cr"], carriageReturn),
   (["ex", "extend"], sentenceExtend),
   (["fo", "format"], formatCharacters),
   (["lf"], lineFeed),
   (["lo", "lower"], sentenceLower),
   (["nu", "numeric"], numericCharacters.union (.single 0x66C)),
   (["le", "oletter"], (alphabetic.union (.single 0x5F3)).diff
      (.unions [sentenceLower, sentenceUpper, sentenceExtend])),
   (["sc", "scontinue"], .ofText
      "2C-2D 3A-3B 37E 55D 60C-60D 7F8 1802 1808 2013-2014 3001 FE10-FE11 FE13-FE14 FE31-FE32
        FE50-FE51 FE54-FE55 FE58 FE63 FF0C-FF0D FF1A-FF1B FF64"),
   (["se", "sep"], lineSeparators),
   (["sp"], whiteSpace.diff (.unions [lineFeed, carriageReturn, lineSeparators])),
   (["st", "sterm"], sentenceTerminal.diff sentenceStops),
   (["up", "upper"], sentenceUpper)]

end MusicLibrary.Unicode
