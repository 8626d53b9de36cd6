import PureLint.Unicode.Property

/-!
# Character classes

A class is a set of characters, kept as ranges of code points in normal form. Classes are joined,
intersected, subtracted and complemented; `foldCase` adds to a class whatever differs from a member
only in case. Digits, blanks, words and the POSIX classes are values of this type.
-/

namespace PureLint.Regex

structure CharClass where
  ranges : Unicode.Ranges
deriving DecidableEq, Repr

namespace CharClass

/-- Whether a code point is in a class. -/
def has (c : CharClass) (n : Nat) : Bool := c.ranges.has n

def ofRanges (rs : Unicode.Ranges) : CharClass := ⟨rs.normalize⟩

def empty : CharClass := ⟨[]⟩

def single (n : Nat) : CharClass := ⟨[⟨n, n⟩]⟩

def range (first last : Nat) : CharClass := ⟨[⟨first, last⟩]⟩

def any : CharClass := range 0 Unicode.lastCode

def union (a b : CharClass) : CharClass := ⟨a.ranges.join b.ranges⟩

def inter (a b : CharClass) : CharClass := ⟨a.ranges.meet b.ranges⟩

def diff (a b : CharClass) : CharClass := ⟨a.ranges.without b.ranges⟩

/-- The members of just one of the classes. -/
def symDiff (a b : CharClass) : CharClass := union (diff a b) (diff b a)

/-- The characters outside a class; surrogates are none. -/
def compl (a : CharClass) : CharClass :=
  ⟨Unicode.Ranges.complement (a.ranges ++ [⟨0xd800, 0xdfff⟩])⟩

def isAscii (c : CharClass) : Bool := c.ranges.all (·.last < 0x80)

/-! ## Case -/

/-- The part of a range from `first` to `last`, moved so that `first` comes to `target`. -/
def moved (r : Unicode.Range) (first last target : Nat) : Option Unicode.Range :=
  let lo := max r.first first
  let hi := min r.last last
  if lo ≤ hi then some ⟨target + (lo - first), target + (hi - first)⟩ else none

/-- What the members of some ranges fold to. -/
def foldImages (rs : Unicode.Ranges) : Unicode.Ranges :=
  rs.flatMap fun r => Unicode.foldRuns.filterMap fun run => moved r run.first run.last run.target

/-- What folds to the members of some ranges. -/
def foldOrigins (rs : Unicode.Ranges) : Unicode.Ranges :=
  rs.flatMap fun r =>
    Unicode.foldRuns.filterMap fun run =>
      moved r run.target (run.target + (run.last - run.first)) run.first

/-- Adds the other case of ASCII letters. -/
def foldAscii (c : CharClass) : CharClass :=
  ofRanges (c.ranges ++ c.ranges.flatMap fun r =>
    (moved r 0x41 0x5a 0x61).toList ++ (moved r 0x61 0x7a 0x41).toList)

/-- Adds whatever differs from a member only in case, in ASCII or in all of Unicode. -/
def foldCase (unicode : Bool) (c : CharClass) : CharClass :=
  if unicode then
    let folded := Unicode.Ranges.normalize (c.ranges ++ foldImages c.ranges)
    ofRanges (folded ++ foldOrigins folded)
  else foldAscii c

/-! ## Named classes -/

/-- Decimal digits of all scripts. -/
def unicodeDigit : CharClass := ofRanges Unicode.Category.ndRanges

def digit (unicode : Bool) : CharClass := if unicode then unicodeDigit else range 0x30 0x39

def unicodeSpace : CharClass := ofRanges (Unicode.Property.table .whiteSpace)

def space (unicode : Bool) : CharClass :=
  if unicode then unicodeSpace else ofRanges (Unicode.ranges "9-D 20")

/-- Letters, marks, digits, connectors and joiners. -/
def unicodeWord : CharClass :=
  ofRanges (Unicode.Property.toRanges .alphabetic ++ Unicode.marks ++ Unicode.Category.ndRanges ++
    Unicode.Category.pcRanges ++ Unicode.Property.table .joinControl)

def word (unicode : Bool) : CharClass :=
  if unicode then unicodeWord else ofRanges (Unicode.ranges "30-39 41-5A 5F 61-7A")

def posixTable : List (String × String) :=
  [("alnum", "30-39 41-5A 61-7A"), ("alpha", "41-5A 61-7A"), ("ascii", "0-7F"), ("blank", "9 20"),
   ("cntrl", "0-1F 7F"), ("digit", "30-39"), ("graph", "21-7E"), ("lower", "61-7A"),
     ("print", "20-7E"),
   ("punct", "21-2F 3A-40 5B-60 7B-7E"), ("space", "9-D 20"), ("upper", "41-5A"),
     ("word", "30-39 41-5A 5F 61-7A"), ("xdigit", "30-39 41-46 61-66")]

/-- The POSIX class of that name. -/
def posix? (name : Text) : Option CharClass :=
  (posixTable.lookup (String.ofList name)).map fun t => ofRanges (Unicode.ranges t)

end CharClass

end PureLint.Regex
