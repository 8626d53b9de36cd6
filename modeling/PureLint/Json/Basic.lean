import PureLint.Number.Shortest
import PureLint.Text.Basic

/-!
# JSON values

Values with their written form. Integers within 64 bits are kept as they are and every other number
is a double. The members of an object are kept in the order of their keys, and of several members
with one key the last counts. `Json.render` writes a value without blanks.
-/

namespace PureLint

inductive JsonNumber where
  | nonNegative (n : Nat)
  /-- The integer `-n`. -/
  | negative (n : Nat)
  | double (d : Double)
deriving DecidableEq, Repr

inductive Json where
  | null
  | bool (b : Bool)
  | number (n : JsonNumber)
  | string (t : Text)
  | array (items : List Json)
  | object (members : List (Text × Json))
deriving Repr

namespace Json

/-- Whether a key comes before another: by the code points of their characters. -/
def keyLt : Text → Text → Bool
  | [], [] => false
  | [], _ :: _ => true
  | _ :: _, [] => false
  | a :: as, b :: bs => a.toNat < b.toNat || (a == b && keyLt as bs)

/-- Puts a member in its place; a member of the same key gives way. -/
def insertMember {α : Type} (key : Text) (value : α) : List (Text × α) → List (Text × α)
  | [] => [(key, value)]
  | (k, v) :: rest =>
    if key == k then (key, value) :: rest
    else if keyLt key k then (key, value) :: (k, v) :: rest
    else (k, v) :: insertMember key value rest

/-- The object of members in the order they are written. -/
def ofMembers (members : List (Text × Json)) : Json :=
  .object (members.foldl (fun acc p => insertMember p.1 p.2 acc) [])

def get? (key : String) : Json → Option Json
  | .object members => members.lookup key.toList
  | _ => none

/-! ## Writing -/

def hex4 (n : Nat) : Text :=
  let digit (k : Nat) : Char := Nat.digitChar (n / Nat.pow 16 k % 16)
  [digit 3, digit 2, digit 1, digit 0]

/-- A character in a string. Quotes, backslashes and control characters are escaped. -/
def escapeChar (c : Char) : Text :=
  if c == '\x22' then ['\x5c', '\x22']
  else if c == '\x5c' then ['\x5c', '\x5c']
  else if c == '\x08' then ['\x5c', 'b']
  else if c == '\x0c' then ['\x5c', 'f']
  else if c == '\n' then ['\x5c', 'n']
  else if c == '\r' then ['\x5c', 'r']
  else if c == '\t' then ['\x5c', 't']
  else if c.toNat < 0x20 then '\x5c' :: 'u' :: hex4 c.toNat
  else [c]

def quote (t : Text) : Text := '\x22' :: (t.flatMap escapeChar ++ ['\x22'])

structure DoubleLayout where
  /-- The least and the greatest place of the leading digit for which no exponent is written. -/
  leastPlace : Int
  greatestPlace : Int

/-- From `1e-5` up to `1e16` a double is written without an exponent. -/
def doubleLayout : DoubleLayout := ⟨-5, 15⟩

/-- A double with at least one digit behind the point, or an exponent with its sign. -/
def renderDouble : Double → Text
  | .infinite _ => "null".toList
  | .finite negative m e =>
    let d := Double.shortest m e
    let digits := d.digitText
    let place : Int := d.exponent + digits.length - 1
    let body :=
      if m = 0 then "0.0".toList
      else if doubleLayout.leastPlace ≤ place ∧ place ≤ doubleLayout.greatestPlace then
        if 0 ≤ d.exponent then d.plain ++ ".0".toList else d.plain
      else
        let fraction := if digits.length = 1 then [] else '.' :: digits.drop 1
        let sign := if place < 0 then '-' else '+'
        digits.take 1 ++ fraction ++ 'e' :: sign :: (toString place.natAbs).toList
    if negative then '-' :: body else body

def renderNumber : JsonNumber → Text
  | .nonNegative n => (toString n).toList
  | .negative n => '-' :: (toString n).toList
  | .double d => renderDouble d

mutual

/-- The written form of a value, without blanks. -/
def render : Json → Text
  | null => "null".toList
  | bool b => (if b then "true" else "false").toList
  | number n => renderNumber n
  | string t => quote t
  | array items => '[' :: (renderItems items ++ [']'])
  | object members => '\x7b' :: (renderMembers members ++ ['\x7d'])

def renderItems : List Json → Text
  | [] => []
  | [v] => render v
  | v :: vs => render v ++ ',' :: renderItems vs

def renderMembers : List (Text × Json) → Text
  | [] => []
  | [(k, v)] => quote k ++ ':' :: render v
  | (k, v) :: rest => quote k ++ ':' :: (render v ++ ',' :: renderMembers rest)

end

end Json

end PureLint
