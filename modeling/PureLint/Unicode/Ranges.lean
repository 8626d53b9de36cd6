import PureLint.Text.Basic

/-!
# Ranges of code points

A set of code points is a list of closed ranges. Tables of the Unicode standard are written as text:
ranges `first-last` or single code points, in hexadecimal, with blanks between them (`ranges`). The
operations on sets first bring their arguments into a normal form (`Ranges.normalize`): in order,
with no two ranges that overlap or touch.
-/

namespace PureLint.Unicode

/-- The code points from `first` to `last`, both included. -/
structure Range where
  first : Nat
  last : Nat
deriving DecidableEq, Repr

abbrev Ranges := List Range

def Range.contains (r : Range) (n : Nat) : Bool := r.first ≤ n && n ≤ r.last

/-- Whether a code point lies in one of the ranges. -/
def Ranges.has (rs : Ranges) (n : Nat) : Bool := rs.any (·.contains n)

/-! ## Operations on sets -/

/-- The last code point. -/
def lastCode : Nat := 0x10ffff

/-- A range and those that follow it, joined where they overlap or touch. -/
def Ranges.glue : Range → Ranges → Ranges
  | r, [] => [r]
  | r, s :: rest =>
    if s.first ≤ r.last + 1 then glue ⟨r.first, max r.last s.last⟩ rest else r :: glue s rest

/-- The same code points in order, with no two ranges that overlap or touch. -/
def Ranges.normalize (rs : Ranges) : Ranges :=
  match rs.mergeSort fun a b => a.first ≤ b.first with
  | [] => []
  | r :: rest => glue r rest

/-- The code points from `next` on that ranges in order leave out. -/
def Ranges.gaps : Nat → Ranges → Ranges
  | next, [] => if next ≤ lastCode then [⟨next, lastCode⟩] else []
  | next, r :: rest =>
    if next < r.first then ⟨next, r.first - 1⟩ :: gaps (max next (r.last + 1)) rest
    else gaps (max next (r.last + 1)) rest

def Ranges.complement (rs : Ranges) : Ranges := gaps 0 rs.normalize

def Ranges.join (a b : Ranges) : Ranges := Ranges.normalize (a ++ b)

def Ranges.meet (a b : Ranges) : Ranges := (a.complement.join b.complement).complement

def Ranges.without (a b : Ranges) : Ranges := a.meet b.complement

/-! ## Tables as text -/

def hexDigit? (c : Char) : Option Nat :=
  if '0' ≤ c ∧ c ≤ '9' then some (c.toNat - '0'.toNat)
  else if 'a' ≤ c ∧ c ≤ 'f' then some (c.toNat - 'a'.toNat + 10)
  else if 'A' ≤ c ∧ c ≤ 'F' then some (c.toNat - 'A'.toNat + 10)
  else none

def hexValue? (t : Text) : Option Nat :=
  if t.isEmpty then none
  else t.foldl (fun acc c => acc.bind fun n => (hexDigit? c).map (n * 16 + ·)) (some 0)

/-- Reads `first-last`, or a single code point. -/
def Range.ofText? (t : Text) : Option Range :=
  match Text.splitOn '-' t with
  | [a] => (hexValue? a).map fun n => ⟨n, n⟩
  | [a, b] =>
    match hexValue? a, hexValue? b with
    | some m, some n => some ⟨m, n⟩
    | _, _ => none
  | _ => none

/-- The entries of a table: what stands between blanks and ends of lines. -/
def entries (table : String) : List Text :=
  (Text.splitOn ' ' (table.toList.map fun c => if c == '\n' then ' ' else c)).filter fun t =>
    !t.isEmpty

def ranges (table : String) : Ranges := (entries table).filterMap Range.ofText?

end PureLint.Unicode
