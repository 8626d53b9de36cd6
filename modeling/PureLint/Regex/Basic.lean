import PureLint.Regex.CharClass

/-!
# Regular expressions

A regular expression and where it matches. A position of a text is the pair of characters beside it
(`Spot`). A set of positions is a list of flags, one for each position. `reach` carries a set of
starting positions through an expression to the positions where a match that began in the set can
end; an expression is found in a text if some end can be reached from some start. No choice is ever
undone, so the time does not explode.
-/

namespace PureLint

namespace Regex

/-- Conditions on a position. -/
inductive Look where
  | textStart | textEnd
  | lineStart | lineEnd
  /-- Lines that end in a carriage return, a line feed or both. -/
  | crlfLineStart | crlfLineEnd
  | wordBoundary (unicode : Bool)
  | notWordBoundary (unicode : Bool)
  | wordStart (unicode : Bool)
  | wordEnd (unicode : Bool)
  | wordStartHalf (unicode : Bool)
  | wordEndHalf (unicode : Bool)
deriving DecidableEq, Repr

/-- The characters before and behind a position. -/
structure Spot where
  before : Option Char
  after : Option Char
deriving DecidableEq, Repr

/-- The positions of a text whose first character follows `before`. -/
def spotsFrom (before : Option Char) : Text → List Spot
  | [] => [⟨before, none⟩]
  | c :: cs => ⟨before, some c⟩ :: spotsFrom (some c) cs

/-- The positions of a text, one more than it has characters. -/
def spots (t : Text) : List Spot := spotsFrom none t

def isWordChar (unicode : Bool) (c : Option Char) : Bool :=
  c.any fun c => (CharClass.word unicode).has c.toNat

def Look.holds (s : Spot) : Look → Bool
  | textStart => s.before.isNone
  | textEnd => s.after.isNone
  | lineStart => s.before.isNone || s.before == some '\n'
  | lineEnd => s.after.isNone || s.after == some '\n'
  | crlfLineStart =>
    s.before.isNone || s.before == some '\n' || (s.before == some '\r' && s.after != some '\n')
  | crlfLineEnd =>
    s.after.isNone || s.after == some '\r' || (s.after == some '\n' && s.before != some '\r')
  | wordBoundary u => isWordChar u s.before != isWordChar u s.after
  | notWordBoundary u => isWordChar u s.before == isWordChar u s.after
  | wordStart u => !isWordChar u s.before && isWordChar u s.after
  | wordEnd u => isWordChar u s.before && !isWordChar u s.after
  | wordStartHalf u => !isWordChar u s.before
  | wordEndHalf u => !isWordChar u s.after

end Regex

/-- A regular expression. -/
inductive Regex where
  | empty
  | chars (c : Regex.CharClass)
  | look (l : Regex.Look)
  | cat (a b : Regex)
  | alt (a b : Regex)
  /-- Whether more rounds are tried first changes nothing about what matches. -/
  | rep (r : Regex) (least : Nat) (most : Option Nat) (greedy : Bool)
  /-- A group matches what is in it, whether it is numbered or not. -/
  | group (numbered : Bool) (r : Regex)
deriving Repr

namespace Regex

/-- A set of positions of a text, one flag for each. -/
abbrev Positions := List Bool

/-- The positions behind those where a character of the class stands. -/
def stepOver (spots : List Spot) (c : CharClass) (m : Positions) : Positions :=
  false ::
    (List.zipWith (fun here s => here && s.after.any fun ch => c.has ch.toNat) m spots).dropLast

/-- The positions of the set at which a condition holds. -/
def keep (spots : List Spot) (l : Look) (m : Positions) : Positions :=
  List.zipWith (fun here s => here && l.holds s) m spots

def join (a b : Positions) : Positions := List.zipWith (· || ·) a b

/-- Applies a function a number of times, or until it changes nothing. -/
def times {α : Type} [BEq α] (f : α → α) : Nat → α → α
  | 0, a => a
  | n + 1, a =>
    let a' := f a
    if a' == a then a else times f n a'

/-- Adds to a set what a function reaches from it, round after round, until nothing new comes. -/
def closure (f : Positions → Positions) : Nat → Positions → Positions
  | 0, m => m
  | n + 1, m =>
    let m' := join m (f m)
    if m' == m then m else closure f n m'

/-- The positions where a match that begins in the set can end. -/
def reach (spots : List Spot) : Regex → Positions → Positions
  | empty, m => m
  | chars c, m => stepOver spots c m
  | look l, m => keep spots l m
  | cat a b, m => reach spots b (reach spots a m)
  | alt a b, m => join (reach spots a m) (reach spots b m)
  | rep r least most _, m =>
    let extra := match most with
      | some n => n - least
      | none => spots.length
    closure (reach spots r) extra (times (reach spots r) least m)
  | group _ r, m => reach spots r m

/-- Whether the expression matches somewhere in a text. -/
def isFound (r : Regex) (t : Text) : Bool :=
  let ss := spots t
  (reach ss r (ss.map fun _ => true)).any id

end Regex

end PureLint
