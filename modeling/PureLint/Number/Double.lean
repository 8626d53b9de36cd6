/-!
# Double precision numbers

A double is a signed `mantissa · 2 ^ exponent` with at most 53 bits of mantissa and an exponent of
at least -1074, or an infinity. `ofRatio` rounds a quotient of naturals to the nearest double, a tie
going to the even mantissa; products and quotients of doubles are rounded once, from their exact
value.
-/

namespace PureLint

/-- A double precision number other than a NaN. -/
inductive Double where
  | finite (negative : Bool) (mantissa : Nat) (exponent : Int)
  | infinite (negative : Bool)
deriving DecidableEq, Repr, Inhabited

namespace Double

def minExponent : Int := -1074

/-- The numerator and denominator of `num / den · 2 ^ (-e)`. -/
def scale (num den : Nat) (e : Int) : Nat × Nat :=
  if 0 ≤ e then (num, den * Nat.pow 2 e.toNat) else (num * Nat.pow 2 (-e).toNat, den)

/-- The natural nearest to `num / den`; a tie goes to the even neighbour. -/
def divNearestEven (num den : Nat) : Nat :=
  let q := num / den
  let r := num % den
  if 2 * r < den then q
  else if den < 2 * r then q + 1
  else if q % 2 = 0 then q else q + 1

/-- The exponent at which `num / den` has a mantissa of 53 bits. -/
def exponentFor (num den : Nat) : Int :=
  let e : Int := (Nat.log2 num : Int) - (Nat.log2 den : Int) - 52
  let p := scale num den e
  if p.1 < p.2 * Nat.pow 2 52 then e - 1 else e

/-- The double nearest to `num / den`, with a sign. -/
def ofRatio (negative : Bool) (num den : Nat) : Double :=
  if num = 0 ∨ den = 0 then finite negative 0 minExponent
  else
    let e := max (exponentFor num den) minExponent
    let p := scale num den e
    let m := divNearestEven p.1 p.2
    let (m, e) := if m = Nat.pow 2 53 then (Nat.pow 2 52, e + 1) else (m, e)
    if 971 < e then infinite negative else finite negative m e

def ofNat (n : Nat) : Double := ofRatio false n 1

/-- The double nearest to `n · 10 ^ e`. -/
def ofDecimal (negative : Bool) (n : Nat) (e : Int) : Double :=
  if n = 0 then finite negative 0 minExponent
  else if 400 < e then infinite negative
  else if e < -400 - (Nat.log2 n : Int) then finite negative 0 minExponent
  else if 0 ≤ e then ofRatio negative (n * Nat.pow 10 e.toNat) 1
  else ofRatio negative n (Nat.pow 10 (-e).toNat)

/-- Whether the number is written with a minus sign. -/
def isNegative : Double → Bool
  | finite negative _ _ => negative
  | infinite negative => negative

def isInfinite : Double → Bool
  | finite .. => false
  | infinite _ => true

def isZero : Double → Bool
  | finite _ m _ => m == 0
  | infinite _ => false

def neg : Double → Double
  | finite s m e => finite (!s) m e
  | infinite s => infinite (!s)

/-- The magnitude of a finite number as a quotient of naturals. -/
def ratio (m : Nat) (e : Int) : Nat × Nat :=
  if 0 ≤ e then (m * Nat.pow 2 e.toNat, 1) else (m, Nat.pow 2 (-e).toNat)

def mul : Double → Double → Double
  | finite s m e, finite s' m' e' =>
    let p := ratio (m * m') (e + e')
    ofRatio (s != s') p.1 p.2
  | a, b => infinite (a.isNegative != b.isNegative)

/-- The product with a natural and a natural added to it, rounded once; for numbers that are not
negative. -/
def mulAddNat (x : Double) (factor addend : Nat) : Double :=
  match x with
  | finite s m e =>
    let p := ratio m e
    ofRatio s (p.1 * factor + addend * p.2) p.2
  | infinite s => infinite s

/-- The rounded quotient by a number that is not zero. -/
def div : Double → Double → Double
  | finite s m e, finite s' m' e' =>
    let p := ratio m e
    let p' := ratio m' e'
    ofRatio (s != s') (p.1 * p'.2) (p.2 * p'.1)
  | a@(infinite _), b => infinite (a.isNegative != b.isNegative)
  | finite s _ _, infinite s' => finite (s != s') 0 minExponent

end Double

end PureLint
