import PureLint.Json.Basic
import PureLint.Unicode.Ranges

/-!
# Reading JSON

Each function reads one form from the front of a text and returns it with the text behind it; `none`
means that the text is not well formed there. A number keeps the digits that fit into 64 bits, the
rest only scale it, and it is scaled by a power of ten in one step; a number beyond the doubles is
not well formed. Values nest to a fixed depth.
-/

namespace PureLint.Json.Reader

def isBlank (c : Char) : Bool := c == ' ' || c == '\n' || c == '\t' || c == '\r'

def skipBlanks (cs : Text) : Text := cs.dropWhile isBlank

/-! ## Numbers -/

/-- One more than the greatest integer of 64 bits. -/
def wordLimit : Nat := Nat.pow 2 64

/-- Appends digits to a number while it fits into 64 bits. The result has the number of digits taken
and the digits left. -/
def takeDigits : Nat → Text → Nat → Nat × Nat × Text
  | acc, [], count => (acc, count, [])
  | acc, c :: cs, count =>
    let next := acc * 10 + (c.toNat - '0'.toNat)
    if next < wordLimit then takeDigits next cs (count + 1) else (acc, count, c :: cs)

/-- Scales a double by a power of ten. Too large a result is none; a tiny one is zero. -/
def scale? : Nat → Double → Int → Option Double
  | 0, f, _ => some f
  | n + 1, f, e =>
    if e.natAbs ≤ 308 then
      let power := Double.ofDecimal false 1 e.natAbs
      if 0 ≤ e then
        let r := f.mul power
        if r.isInfinite then none else some r
      else some (f.div power)
    else if f.isZero then some f
    else if 0 ≤ e then none
    else scale? n (f.div (Double.ofDecimal false 1 308)) (e + 308)

/-- The double of a number with that many digits moved. -/
def toDouble? (negative : Bool) (significand : Nat) (e : Int) : Option JsonNumber :=
  (scale? 8 (Double.ofNat significand) e).map fun d => .double (if negative then d.neg else d)

/-- Reads an exponent: its value, or zero if there is none. The flag says whether there is one. -/
def exponent? : Text → Option (Int × Bool × Text)
  | c :: cs =>
    if c == 'e' || c == 'E' then
      let (negative, cs) : Bool × Text :=
        match cs with
        | '+' :: r => (false, r)
        | '-' :: r => (true, r)
        | _ => (false, cs)
      let ds := cs.takeWhile Char.isDigit
      if ds.isEmpty then none
      else
        let n : Int := min (ds.foldl (fun n c => n * 10 + (c.toNat - '0'.toNat)) 0) (Nat.pow 2 31)
        some (if negative then -n else n, true, cs.drop ds.length)
    else some (0, false, c :: cs)
  | [] => some (0, false, [])

/-- Reads the part of a number behind its sign. -/
def unsigned? (negative : Bool) (cs : Text) : Option (JsonNumber × Text) :=
  let whole := cs.takeWhile Char.isDigit
  let rest := cs.drop whole.length
  if whole.isEmpty || (whole.head? == some '0' && 1 < whole.length) then none
  else
    let (significand, _, left) := takeDigits 0 whole 0
    let fraction? : Option (Text × Text) :=
      match rest with
      | '.' :: r =>
        let ds := r.takeWhile Char.isDigit
        if ds.isEmpty then none else some (ds, r.drop ds.length)
      | _ => some ([], rest)
    fraction?.bind fun (fraction, rest) =>
      let (significand, places, _) := takeDigits significand fraction 0
      (exponent? rest).bind fun (e, hasExponent, rest) =>
        if left.isEmpty && fraction.isEmpty && !hasExponent then
          if !negative then some (.nonNegative significand, rest)
          else if 0 < significand ∧ significand ≤ Nat.pow 2 63 then
            some (.negative significand, rest)
          else some (.double (Double.ofNat significand).neg, rest)
        else (toDouble? negative significand (left.length - places + e)).map fun n => (n, rest)

def number? : Text → Option (JsonNumber × Text)
  | '-' :: cs => unsigned? true cs
  | cs => unsigned? false cs

/-! ## Strings -/

def hex4? : Text → Option (Nat × Text)
  | a :: b :: c :: d :: rest => (Unicode.hexValue? [a, b, c, d]).map fun n => (n, rest)
  | _ => none

/-- Reads what follows `\u`: a code point, or the two halves of a surrogate pair. -/
def unicodeEscape? (cs : Text) : Option (Char × Text) :=
  (hex4? cs).bind fun (high, rest) =>
    if 0xd800 ≤ high ∧ high < 0xdc00 then
      match rest with
      | '\x5c' :: 'u' :: rest' =>
        (hex4? rest').bind fun (low, rest'') =>
          if 0xdc00 ≤ low ∧ low < 0xe000 then
            some (Char.ofNat (0x10000 + (high - 0xd800) * 0x400 + (low - 0xdc00)), rest'')
          else none
      | _ => none
    else if high.isValidChar then some (Char.ofNat high, rest)
    else none

/-- The characters that have an escape of one letter. -/
def escapeLetters : List (Char × Char) :=
  [('\x22', '\x22'), ('\x5c', '\x5c'), ('/', '/'), ('b', '\x08'), ('f', '\x0c'), ('n', '\n'),
    ('r', '\r'), ('t', '\t')]

def stringChars? : Nat → Text → Text → Option (Text × Text)
  | 0, _, _ => none
  | _ + 1, [], _ => none
  | n + 1, c :: cs, acc =>
    if c == '\x22' then some (acc.reverse, cs)
    else if c == '\x5c' then
      match cs with
      | 'u' :: rest => (unicodeEscape? rest).bind fun (d, rest') => stringChars? n rest' (d :: acc)
      | e :: rest => (escapeLetters.lookup e).bind fun d => stringChars? n rest (d :: acc)
      | [] => none
    else if c.toNat < 0x20 then none
    else stringChars? n cs (c :: acc)

def string? : Text → Option (Text × Text)
  | '\x22' :: cs => stringChars? (cs.length + 1) cs []
  | _ => none

/-! ## Values -/

def word? (w : String) (cs : Text) : Option Text :=
  if cs.startsWith w.toList then some (cs.drop w.length) else none

mutual

/-- Reads a value that nests less than `depth` deep. -/
def value? : Nat → Nat → Text → Option (Json × Text)
  | 0, _, _ => none
  | n + 1, depth, cs =>
    match skipBlanks cs with
    | [] => none
    | c :: rest =>
      if c == 'n' then (word? "null" (c :: rest)).map fun r => (.null, r)
      else if c == 't' then (word? "true" (c :: rest)).map fun r => (.bool true, r)
      else if c == 'f' then (word? "false" (c :: rest)).map fun r => (.bool false, r)
      else if c == '\x22' then (string? (c :: rest)).map fun (t, r) => (.string t, r)
      else if c == '[' then
        if depth ≤ 1 then none
        else
          match skipBlanks rest with
          | ']' :: r => some (.array [], r)
          | r => (items? n (depth - 1) r).map fun (vs, r') => (.array vs, r')
      else if c == '\x7b' then
        if depth ≤ 1 then none
        else
          match skipBlanks rest with
          | '\x7d' :: r => some (.object [], r)
          | r => (members? n (depth - 1) r).map fun (ms, r') => (ofMembers ms, r')
      else (number? (c :: rest)).map fun (x, r) => (.number x, r)

/-- Reads items up to a closing bracket; at least one. -/
def items? : Nat → Nat → Text → Option (List Json × Text)
  | 0, _, _ => none
  | n + 1, depth, cs =>
    (value? n depth cs).bind fun (v, rest) =>
      match skipBlanks rest with
      | ',' :: r => (items? n depth r).map fun (vs, r') => (v :: vs, r')
      | ']' :: r => some ([v], r)
      | _ => none

/-- Reads members up to a closing brace; at least one. They are returned as they are written. -/
def members? : Nat → Nat → Text → Option (List (Text × Json) × Text)
  | 0, _, _ => none
  | n + 1, depth, cs =>
    (string? (skipBlanks cs)).bind fun (key, rest) =>
      match skipBlanks rest with
      | ':' :: r =>
        (value? n depth r).bind fun (v, rest') =>
          match skipBlanks rest' with
          | ',' :: r' => (members? n depth r').map fun (ms, r'') => ((key, v) :: ms, r'')
          | '\x7d' :: r' => some ([(key, v)], r')
          | _ => none
      | _ => none

end

def depthLimit : Nat := 128

/-- Reads a value at the front of a text, inside that many arrays and objects. -/
def valueAt? (inside : Nat) (cs : Text) : Option (Json × Text) :=
  value? (2 * cs.length + 2) (depthLimit - inside) cs

/-- Reads the members of an object behind its opening brace, inside that many others, as they are
written. -/
def membersAt? (inside : Nat) (cs : Text) : Option (List (Text × Json) × Text) :=
  match skipBlanks cs with
  | '\x7d' :: r => some ([], r)
  | r => members? (2 * cs.length + 2) (depthLimit - inside) r

end Reader

def parse? (t : Text) : Option Json :=
  match Reader.valueAt? 0 t with
  | some (v, rest) => if (Reader.skipBlanks rest).isEmpty then some v else none
  | none => none

end PureLint.Json
