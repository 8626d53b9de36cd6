import PureLint.Text.Basic
import PureLint.Number.Double

/-!
# Shortest decimal digits

The decimal with the fewest digits that reads back as a given double (`shortest`), the nearest one
among several, and its plain notation without an exponent (`Decimal.plain`).
-/

namespace PureLint

/-- The number `digits · 10 ^ exponent`. -/
structure Decimal where
  digits : Nat
  exponent : Int
deriving DecidableEq, Repr

namespace Decimal

def toDouble (d : Decimal) : Double := Double.ofDecimal false d.digits d.exponent

def digitText (d : Decimal) : Text := (toString d.digits).toList

/-- Positional notation: the digits with as many zeros before or after them as their place asks
for. -/
def plain (d : Decimal) : Text :=
  let ds := d.digitText
  if 0 ≤ d.exponent then ds ++ List.replicate d.exponent.toNat '0'
  else
    let places := (-d.exponent).toNat
    if places < ds.length then ds.take (ds.length - places) ++ '.' :: ds.drop (ds.length - places)
    else '0' :: '.' :: (List.replicate (places - ds.length) '0' ++ ds)

end Decimal

namespace Double

/-- Whether `num / den` is at least `10 ^ k`. -/
def reachesPowerOfTen (num den : Nat) (k : Int) : Bool :=
  if 0 ≤ k then den * Nat.pow 10 k.toNat ≤ num else den ≤ num * Nat.pow 10 (-k).toNat

/-- The place of the leading decimal digit of `num / den`: `10 ^ k ≤ num / den < 10 ^ (k + 1)`. -/
def decimalPlace (num den : Nat) : Int :=
  let guess : Int := ((Nat.log2 num : Int) - (Nat.log2 den : Int)) * 30103 / 100000
  if reachesPowerOfTen num den (guess + 2) then guess + 2
  else if reachesPowerOfTen num den (guess + 1) then guess + 1
  else if reachesPowerOfTen num den guess then guess
  else guess - 1

/-- The numerator and denominator of `num / den · 10 ^ (-e)`. -/
def scaleTen (num den : Nat) (e : Int) : Nat × Nat :=
  if 0 ≤ e then (num, den * Nat.pow 10 e.toNat) else (num * Nat.pow 10 (-e).toNat, den)

/-- Of the two neighbours of `num / den` among the multiples of `10 ^ e`, the nearer one that reads
back as `x`. -/
def neighbour? (x : Double) (num den : Nat) (e : Int) : Option Decimal :=
  let p := scaleTen num den e
  let low := p.1 / p.2
  let r := p.1 % p.2
  let lowHit := decide ((Decimal.mk low e).toDouble = x)
  let highHit := decide ((Decimal.mk (low + 1) e).toDouble = x)
  if lowHit && highHit then
    some ⟨if 2 * r < p.2 || (2 * r == p.2 && low % 2 == 0) then low else low + 1, e⟩
  else if lowHit then some ⟨low, e⟩
  else if highHit then some ⟨low + 1, e⟩
  else none

def trimZeros : Nat → Decimal → Decimal
  | 0, d => d
  | n + 1, d =>
    if d.digits ≠ 0 ∧ d.digits % 10 = 0 then trimZeros n ⟨d.digits / 10, d.exponent + 1⟩ else d

/-- The decimal with the fewest digits that reads back as `m · 2 ^ e`. -/
def shortest (m : Nat) (e : Int) : Decimal :=
  if m = 0 then ⟨0, 0⟩
  else
    let x := finite false m e
    let (num, den) := ratio m e
    let k := decimalPlace num den
    let found := (List.range 17).findSome? fun (n : Nat) => neighbour? x num den (k - n)
    trimZeros 20 (found.getD ⟨m, e⟩)

/-- Positional notation of a double; the shortest digits that read back. -/
def plain : Double → Text
  | finite negative m e => (if negative then ['-'] else []) ++ (shortest m e).plain
  | infinite negative => if negative then "-inf".toList else "inf".toList

end Double

end PureLint
