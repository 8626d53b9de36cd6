import PureLint.Unicode.Property

/-!
# Text segmentation

The classes of code points by which texts are cut into graphemes (`graphemeBreak?`), words
(`wordBreak?`) and sentences (`sentenceBreak?`), by the names of a class in lower case without
separators.
-/

namespace PureLint.Unicode

def classNamed? (name : String) (table : List (List String × (Unit → Ranges))) : Option Ranges :=
  (table.find? fun row => row.1.contains name).map fun row => row.2 ()

/-- The code points of Hangul syllables without a final consonant. -/
def openSyllables : Ranges := (List.range 399).map fun i => ⟨0xAC00 + 28 * i, 0xAC00 + 28 * i⟩

/-- The code points of Hangul syllables with a final consonant. -/
def closedSyllables : Ranges := (List.range 399).map fun i => ⟨0xAC01 + 28 * i, 0xAC1B + 28 * i⟩

/-- Marks with room of their own that do not extend a grapheme. -/
def spacingMarks : Ranges :=
  Ranges.without Category.mcRanges
    (Property.graphemeExtendRanges ++ ranges "102B-102C 1038 1062-1064 1067-106D 1083 1087-108C 108F
      109A-109C 1A61 1A63-1A64 AA7B AA7D 11720-11721")

def extendingMarks : Ranges := Property.graphemeExtendRanges ++ Category.mcRanges

/-- Signs that stand in front of numbers. -/
def numberSigns : Ranges := ranges "600-605 6DD 890-891 8E2 110BD 110CD"

/-- The classes that count for graphemes. -/
def graphemeTable : List (List String × (Unit → Ranges)) :=
  [(["cn", "control"], fun _ =>
      Ranges.without (Property.ofCategories [.zl, .zp, .cc, .cf])
          (numberSigns ++ ranges "A D 70F 200C-200D E0020-E007F") ++
        ranges "2065 FFF0-FFF8 E0000 E0002-E001F E0080-E00FF E01F0-E0FFF"),
   (["cr"], fun _ => ranges "D"),
   (["ex", "extend"], fun _ => Property.graphemeExtendRanges ++ Property.table .emojiModifier),
   (["l"], fun _ => ranges "1100-115F A960-A97C"),
   (["lf"], fun _ => ranges "A"),
   (["lv"], fun _ => openSyllables),
   (["lvt"], fun _ => closedSyllables),
   (["pp", "prepend"], fun _ =>
      numberSigns ++ ranges "70F D4E 111C2-111C3 113D1 1193F 11941 11A3A 11A84-11A89 11D46 11F02"),
   (["ri", "regionalindicator"], fun _ => Property.table .regionalIndicator),
   (["sm", "spacingmark"], fun _ => spacingMarks ++ ranges "E33 EB3"),
   (["t"], fun _ => ranges "11A8-11FF D7CB-D7FB"),
   (["v"], fun _ => ranges "1160-11A7 D7B0-D7C6 16D63 16D67-16D6A"),
   (["zwj"], fun _ => ranges "200D")]

def graphemeBreak? (name : String) : Option Ranges := classNamed? name graphemeTable

/-- Katakana as far as it counts for words. -/
def katakana : Ranges :=
  ranges "3031-3035 309B-309C 30A0-30FA 30FC-30FF 31F0-31FF 32D0-32FE 3300-3357 FF66-FF9D
    1AFF0-1AFF3 1AFF5-1AFFB 1AFFD-1AFFE 1B000 1B120-1B122 1B155 1B164-1B167"

def hebrewLetters : Ranges :=
  ranges "5D0-5EA 5EF-5F2 FB1D FB1F-FB28 FB2A-FB36 FB38-FB3C FB3E FB40-FB41 FB43-FB44 FB46-FB4F"

/-- Marks and modifiers that a word keeps together with what they follow. -/
def wordExtend : Ranges := extendingMarks ++ Property.table .emojiModifier

/-- Letters of words that are written with spaces between them. -/
def wordLetters : Ranges :=
  Ranges.without (Property.toRanges .alphabetic)
      (Property.table .ideographic ++ katakana ++ hebrewLetters ++ wordExtend ++
        ranges "E01-E30 E32-E33 E40-E46 E81-E82 E84 E86-E8A E8C-EA3 EA5 EA7-EB0 EB2-EB3 EBD EC0-EC4
          EC6 EDC-EDF 1000-102A 103F 1050-1055 105A-105D 1061 1065-1066 106E-1070 1075-1081 108E
          1780-17B3 17D7 17DC 1950-196D 1970-1974 1980-19AB 19B0-19C9 1A20-1A54 1AA7 3041-3096
          309D-309F A9E0-A9E4 A9E6-A9EF A9FA-A9FE AA60-AA76 AA7A AA7E-AAAF AAB1 AAB5-AAB6 AAB9-AABD
          AAC0 AAC2 AADB-AADD 11700-1171A 11740-11746 1B001-1B11F 1B132 1B150-1B152") ++
    ranges "2C2-2C5 2D2-2D7 2DE-2DF 2E5-2EB 2ED 2EF-2FF 55A-55C 55E 58A 5F3 70F A708-A716 A720-A721
      A789-A78A AB5B"

/-- Formats that neither extend nor stand in front of numbers. -/
def plainFormats : Ranges :=
  Ranges.without Category.cfRanges (numberSigns ++ ranges "70F 200C-200D E0020-E007F")

def wordTable : List (List String × (Unit → Ranges)) :=
  [(["cr"], fun _ => ranges "D"),
   (["dq", "doublequote"], fun _ => ranges "22"),
   (["ex", "extendnumlet"], fun _ => Category.pcRanges ++ ranges "202F"),
   (["extend"], fun _ => wordExtend),
   (["fo", "format"], fun _ => Ranges.without plainFormats (ranges "200B")),
   (["hl", "hebrewletter"], fun _ => hebrewLetters),
   (["ka", "katakana"], fun _ => katakana),
   (["le", "aletter"], fun _ => wordLetters),
   (["lf"], fun _ => ranges "A"),
   (["mb", "midnumlet"], fun _ => ranges "2E 2018-2019 2024 FE52 FF07 FF0E"),
   (["ml", "midletter"], fun _ => ranges "3A B7 387 55F 5F4 2027 FE13 FE55 FF1A"),
   (["mn", "midnum"], fun _ => ranges "2C 3B 37E 589 60C-60D 66C 7F8 2044 FE10 FE14 FE50 FE54 FF0C
     FF1B"),
   (["nl", "newline"], fun _ => ranges "B-C 85 2028-2029"),
   (["nu", "numeric"], fun _ => Category.ndRanges ++ numberSigns ++ ranges "66B"),
   (["ri", "regionalindicator"], fun _ => Property.table .regionalIndicator),
   (["sq", "singlequote"], fun _ => ranges "27"),
   (["wsegspace"], fun _ => ranges "20 1680 2000-2006 2008-200A 205F 3000"),
   (["zwj"], fun _ => ranges "200D")]

def wordBreak? (name : String) : Option Ranges := classNamed? name wordTable

/-- Marks that a sentence keeps together with what they follow. -/
def sentenceExtend : Ranges := extendingMarks ++ ranges "200D"

def sentenceLower : Ranges :=
  Ranges.without Property.lowerRanges (sentenceExtend ++ ranges "10D0-10FA 10FD-10FF")

def sentenceUpper : Ranges :=
  Ranges.without (Property.upperRanges ++ Category.ltRanges) (ranges "1C90-1CBA 1CBD-1CBF")

def sentenceTable : List (List String × (Unit → Ranges)) :=
  [(["at", "aterm"], fun _ => ranges "2E 2024 FE52 FF0E"),
   (["cl", "close"], fun _ =>
      Property.ofCategories [.ps, .pe, .pi, .pf] ++
        ranges "22 27 275B-2760 2E00-2E01 2E06-2E08 2E0B 1F676-1F678"),
   (["cr"], fun _ => ranges "D"),
   (["ex", "extend"], fun _ => sentenceExtend),
   (["fo", "format"], fun _ => plainFormats),
   (["le", "oletter"], fun _ =>
      Ranges.without (Property.toRanges .alphabetic)
        (sentenceLower ++ sentenceUpper ++ sentenceExtend) ++
        ranges "5F3 70F"),
   (["lf"], fun _ => ranges "A"),
   (["lo", "lower"], fun _ => sentenceLower),
   (["nu", "numeric"], fun _ => Category.ndRanges ++ numberSigns ++ ranges "66B-66C"),
   (["sc", "scontinue"], fun _ =>
      ranges "2C-2D 3A-3B 37E 55D 60C-60D 7F8 1802 1808 2013-2014 3001 FE10-FE11 FE13-FE14 FE31-FE32
        FE50-FE51 FE54-FE55 FE58 FE63 FF0C-FF0D FF1A-FF1B FF64"),
   (["se", "sep"], fun _ => ranges "85 2028-2029"),
   (["sp"], fun _ => ranges "9 B-C 20 A0 1680 2000-200A 202F 205F 3000"),
   (["st", "sterm"], fun _ =>
      Ranges.without (Property.table .sentenceTerminal) (ranges "2E FE52 FF0E")),
   (["up", "upper"], fun _ => sentenceUpper)]

def sentenceBreak? (name : String) : Option Ranges := classNamed? name sentenceTable

end PureLint.Unicode
