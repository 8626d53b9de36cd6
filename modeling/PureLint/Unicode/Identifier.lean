import PureLint.Unicode.Property
import PureLint.Unicode.Recent

/-!
# Characters of identifiers

Which characters may begin an identifier (`isIdStart`) and which may stand after the first one
(`isIdPart`): letters, letter-like numbers and a few more to begin with; then also marks, digits,
connecting punctuation and joiners. `$` and `_` count.
-/

namespace PureLint.Unicode

def idStartCodes : Ranges := Ranges.join Property.idStartRanges Recent.letters

def idPartCodes : Ranges :=
  Ranges.normalize
    (Property.idContinueRanges ++ Recent.letters ++ Recent.nonspacingMarks ++
      Recent.spacingMarksAndDigits)

def isAsciiIdStart (c : Char) : Bool :=
  ('a' ≤ c && c ≤ 'z') || ('A' ≤ c && c ≤ 'Z') || c == '$' || c == '_'

def isIdStart (c : Char) : Bool :=
  if c.toNat < 0x80 then isAsciiIdStart c else idStartCodes.has c.toNat

def isIdPart (c : Char) : Bool :=
  if c.toNat < 0x80 then isAsciiIdStart c || ('0' ≤ c && c ≤ '9') else idPartCodes.has c.toNat

end PureLint.Unicode
