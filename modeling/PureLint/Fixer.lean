import PureLint.Diagnostic

/-!
# Making replacements

`splice` makes a list of replacements in one pass from left to right; `none` means that it would
have to cut inside a character or beyond the end. `applyGroups` picks among groups of replacements,
each of which is made as a whole or not at all: the group that begins first goes first, and one that
overlaps what was picked before is left out.
-/

namespace PureLint

namespace Fixer

/-! ## Sorting -/

/-- Puts an element before the first one that is not less. -/
def insertBy {α : Type} (le : α → α → Bool) (a : α) : List α → List α
  | [] => [a]
  | b :: bs => if le a b then a :: b :: bs else b :: insertBy le a bs

/-- Sorts a list; elements that are equal keep their order. -/
def sortBy {α : Type} (le : α → α → Bool) : List α → List α
  | [] => []
  | a :: as => insertBy le a (sortBy le as)

/-! ## One pass -/

/-- Orders replacements by where they begin, then by where they end. -/
def fixLe (a b : Fix) : Bool := a.start < b.start || (a.start == b.start && a.stop ≤ b.stop)

/-- Makes replacements that are in order; `last` is the end of the one made before. A replacement
that begins before it, or ends beyond the source, is left out. -/
def spliceFrom (source : Text) (last : Nat) : List Fix → Option Text
  | [] => source.dropBytes? last
  | f :: fs =>
    if f.start < last || source.byteLength < f.stop then spliceFrom source last fs
    else
      match source.slice? last f.start, spliceFrom source f.stop fs with
      | some kept, some rest => some (kept ++ f.replacement ++ rest)
      | _, _ => none

/-- Makes replacements in any order. -/
def splice (source : Text) (fixes : List Fix) : Option Text :=
  spliceFrom source 0 (sortBy fixLe fixes)

/-! ## Groups -/

/-- Whether two replacements touch the same text. Two insertions do if they are made at the same
place. -/
def overlaps (a b : Fix) : Bool :=
  if a.isInsertion && b.isInsertion then a.start == b.start
  else a.start < b.stop && b.start < a.stop

/-- Where the first replacement of a group begins. -/
def firstStart : List Fix → Nat
  | [] => 0
  | [f] => f.start
  | f :: fs => min f.start (firstStart fs)

/-- What was picked, and how many groups were left out. -/
structure Choice where
  accepted : List Fix
  applied : Nat
  skipped : Nat

/-- Picks groups in order. -/
def choose : List (List Fix) → Choice → Choice
  | [], c => c
  | g :: gs, c =>
    if g.any fun f => c.accepted.any fun other => overlaps f other then
      choose gs { c with skipped := c.skipped + 1 }
    else choose gs { c with accepted := c.accepted ++ g, applied := c.applied + 1 }

/-- The groups that have replacements, the one that begins first in front. -/
def candidates (groups : List (List Fix)) : List (List Fix) :=
  sortBy (fun a b => decide (firstStart a ≤ firstStart b)) (groups.filter fun g => !g.isEmpty)

/-- The text after the replacements, and how many groups were made and left out. -/
structure Result where
  output : Text
  applied : Nat
  skipped : Nat
deriving DecidableEq, Repr

/-- Makes the groups of replacements that do not overlap. -/
def applyGroups (source : Text) (groups : List (List Fix)) : Option Result :=
  let c := choose (candidates groups) ⟨[], 0, 0⟩
  (splice source c.accepted).map fun output => ⟨output, c.applied, c.skipped⟩

/-- Makes the replacements of reports. -/
def applyFixes (source : Text) (ds : List Diagnostic) : Option Result :=
  applyGroups source (ds.map (·.fixes))

def applySuggestion (source : Text) (s : Suggestion) : Option Text := splice source s.fixes

end Fixer

end PureLint
