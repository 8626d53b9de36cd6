import PureLint.Regex.CharClass

/-!
# Characters as bytes

The encoding of a range of characters in UTF-8 as sequences of ranges of bytes (`byteSequences`):
each sequence has one range for each byte, and the sequences of a class together are the encodings
of its members. Sequences that begin alike share a path from the beginning (`pathCount`), and those
that go on alike share what follows (`states`).
-/

namespace PureLint.Regex.Utf8

/-- Ranges of bytes, one for each byte of an encoding. -/
abbrev Sequence := List Unicode.Range

def width (n : Nat) : Nat :=
  if n < 0x80 then 1 else if n < 0x800 then 2 else if n < 0x10000 then 3 else 4

def bytes (n : Nat) : List Nat :=
  match width n with
  | 1 => [n]
  | 2 => [0xc0 + n / 64, 0x80 + n % 64]
  | 3 => [0xe0 + n / 4096, 0x80 + n / 64 % 64, 0x80 + n % 64]
  | _ => [0xf0 + n / 262144, 0x80 + n / 4096 % 64, 0x80 + n / 64 % 64, 0x80 + n % 64]

/-- The two parts of a range in front of a point and from it on. -/
def cut (r : Unicode.Range) (point : Nat) : Unicode.Range × Unicode.Range :=
  (⟨r.first, point - 1⟩, ⟨point, r.last⟩)

/-- Where a range has to be cut because its characters do not all have as many bytes. -/
def widthCut? (r : Unicode.Range) : Option Nat :=
  [0x80, 0x800, 0x10000].find? fun p => r.first < p && p ≤ r.last

/-- Where a range has to be cut because the last bytes of a character do not run through all
values. -/
def alignmentCut? (r : Unicode.Range) : Option Nat :=
  [64, 4096, 262144].findSome? fun block =>
    if r.first / block = r.last / block then none
    else if r.first % block ≠ 0 then some ((r.first / block + 1) * block)
    else if r.last % block ≠ block - 1 then some (r.last / block * block)
    else none

/-- The sequences of a range of characters, cut at most a number of times in a row. -/
def sequencesOf : Nat → Unicode.Range → List Sequence
  | 0, _ => []
  | n + 1, r =>
    match widthCut? r <|> (if r.last < 0x80 then none else alignmentCut? r) with
    | some p => sequencesOf n (cut r p).1 ++ sequencesOf n (cut r p).2
    | none => [List.zipWith (fun a b => ⟨a, b⟩) (bytes r.first) (bytes r.last)]

/-- The sequences of a class in order; surrogates have none. No range has to be cut more than nine
times in a row. -/
def byteSequences (c : CharClass) : List Sequence :=
  (c.ranges.without [⟨0xd800, 0xdfff⟩]).flatMap (sequencesOf 10)

/-- The sequences by the range of their first byte, with what follows it. -/
def branches : List Sequence → List (Unicode.Range × List Sequence)
  | [] => []
  | [] :: rest => branches rest
  | (r :: tail) :: rest =>
    match branches rest with
    | (r', tails) :: more =>
      if r = r' then (r, tail :: tails) :: more else (r, [tail]) :: (r', tails) :: more
    | [] => [(r, [tail])]

/-- The number of steps of the paths through sequences of at most `n` bytes that share their
beginnings. -/
def pathCount : Nat → List Sequence → Nat
  | 0, _ => 0
  | n + 1, ss => ((branches ss).map fun b => 1 + pathCount n b.2).sum

/-- Everything that can follow the beginning of a sequence of at most `n` bytes, other than
nothing. -/
def continuations : Nat → List Sequence → List (List Sequence)
  | 0, _ => []
  | n + 1, ss =>
    ss :: (branches ss).flatMap fun b => if b.2.all List.isEmpty then [] else continuations n b.2

/-- The different continuations of the sequences of characters. -/
def states (ss : List Sequence) : List (List Sequence) := (continuations 4 ss).eraseDups

end PureLint.Regex.Utf8
