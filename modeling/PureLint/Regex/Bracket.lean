import PureLint.Regex.Escape

/-!
# Classes in brackets

A class in brackets lists characters, ranges, escapes, POSIX classes and further classes in
brackets, and combines such lists by intersection, difference and symmetric difference. Beside its
class each part has a height: how deep classes, lists of more than one item and operations are
nested in it.
-/

namespace PureLint.Regex.Reader

/-- What stands in a class: a character that may begin a range, or a class. -/
inductive ClassItem where
  | literal (n : Nat)
  | charClass (c : CharClass)

/-- A character in a class. Without Unicode a class holds only ASCII. -/
def classLiteral? (f : Flags) (n : Nat) (rest : Text) : Option (ClassItem × Text) :=
  if f.unicode || n < 0x80 then some (.literal n, rest) else none

def classItem? (f : Flags) : Text → Option (ClassItem × Text)
  | [] => none
  | '\x5c' :: cs =>
    match escape? f cs with
    | some (.literal n, r) => classLiteral? f n r
    | some (.charClass c, r) => some (.charClass c, r)
    | _ => none
  | c :: cs => classLiteral? f c.toNat cs

def ClassItem.toClass : ClassItem → CharClass
  | literal n => .single n
  | charClass c => c

/-- The character that decides whether a hyphen is part of a range, given what follows the hyphen:
where free spacing is on, the first one behind blanks and one number sign. -/
def peekSpace (f : Flags) (cs : Text) : Option Char :=
  if !f.extended then cs.head?
  else
    match cs.dropWhile isBlank with
    | '#' :: rest => (rest.dropWhile isBlank).head? <|> cs.head?
    | rest => rest.head? <|> cs.head?

/-- Reads an item, or a range between two characters. -/
def classRange? (f : Flags) (cs : Text) : Option (CharClass × Text) :=
  (classItem? f cs).bind fun (first, rest) =>
    match skipSpace f rest with
    | [] => none
    | '-' :: rest' =>
      let next := peekSpace f rest'
      if next == some ']' || next == some '-' then some (first.toClass, '-' :: rest')
      else
        (classItem? f (skipSpace f rest')).bind fun (last, rest'') =>
          match first, last with
          | .literal a, .literal b => if a ≤ b then some (.range a b, rest'') else none
          | _, _ => none
    | rest' => some (first.toClass, rest')

/-- Reads a POSIX class such as `[:alpha:]`, behind its first bracket: its name and whether it is
negated. -/
def posixName? (cs : Text) : Option (CharClass × Bool × Text) :=
  match cs with
  | ':' :: cs' =>
    let (negated, cs') : Bool × Text :=
      match cs' with
      | '^' :: r => (true, r)
      | _ => (false, cs')
    let name := cs'.takeWhile (· != ':')
    match cs'.drop name.length with
    | ':' :: ']' :: rest => (CharClass.posix? name).map fun c => (c, negated, rest)
    | _ => none
  | _ => none

/-! ## Lists of items -/

/-- A class and its height. -/
structure Tall where
  charClass : CharClass
  height : Nat := 0

structure Items where
  ranges : Unicode.Ranges := []
  count : Nat := 0
  height : Nat := 0

def Items.push (i : Items) (t : Tall) : Items :=
  ⟨t.charClass.ranges ++ i.ranges, i.count + 1, max i.height t.height⟩

def Items.toTall (i : Items) : Tall :=
  ⟨.ofRanges i.ranges, if 2 ≤ i.count then i.height + 1 else i.height⟩

inductive SetOp where
  | inter | diff | symDiff

def SetOp.apply : SetOp → CharClass → CharClass → CharClass
  | inter => CharClass.inter
  | diff => CharClass.diff
  | symDiff => CharClass.symDiff

/-- Applies the operation that waits for its right side, if there is one. Case is evened out on both
sides first. -/
def combine (f : Flags) : Option (Tall × SetOp) → Tall → Tall
  | none, right => right
  | some (left, op), right =>
    ⟨op.apply (foldIf f left.charClass) (foldIf f right.charClass),
      max left.height right.height + 1⟩

def leadingHyphens (f : Flags) : Nat → Text → Items → Text × Items
  | 0, cs, items => (cs, items)
  | n + 1, cs, items =>
    match cs with
    | '-' :: rest => leadingHyphens f n (skipSpace f rest) (items.push ⟨.single '-'.toNat, 0⟩)
    | _ => (cs, items)

/-- Reads the beginning of a class behind its bracket: whether it is negated, and the characters
that stand for themselves only there. -/
def classOpening (f : Flags) (cs : Text) : Bool × Items × Text :=
  let cs := skipSpace f cs
  let (negated, cs) : Bool × Text :=
    match cs with
    | '^' :: r => (true, skipSpace f r)
    | _ => (false, cs)
  let (cs', items) := leadingHyphens f cs.length cs {}
  match cs, cs' with
  | ']' :: r, _ => (negated, items.push ⟨.single ']'.toNat, 0⟩, skipSpace f r)
  | _, _ => (negated, items, cs')

/-- How deep the parts of an expression may be nested. -/
def nestLimit : Nat := 250

/-- Reads the items of a class up to its closing bracket, with room for that many classes inside
each other. -/
def classBody? : Nat → Nat → Flags → Option (Tall × SetOp) → Items → Text → Option (Tall × Text)
  | 0, _, _, _, _, _ => none
  | n + 1, room, f, left, items, cs =>
    match skipSpace f cs with
    | [] => none
    | ']' :: rest =>
      let whole := combine f left items.toTall
      some (⟨foldIf f whole.charClass, whole.height⟩, rest)
    | '[' :: rest =>
      match posixName? rest with
      | some (c, negated, rest') =>
        (negateIf? f negated (foldIf f c)).bind fun c' =>
          classBody? n room f left (items.push ⟨c', 0⟩) rest'
      | none =>
        if room = 0 then none
        else
          let (negated, start, inside) := classOpening f rest
          (classBody? n (room - 1) f none start inside).bind fun (inner, rest') =>
            (negateIf? f negated inner.charClass).bind fun c =>
              classBody? n room f left (items.push ⟨c, inner.height + 1⟩) rest'
    | '&' :: '&' :: rest => classBody? n room f (some (combine f left items.toTall, .inter)) {} rest
    | '-' :: '-' :: rest => classBody? n room f (some (combine f left items.toTall, .diff)) {} rest
    | '~' :: '~' :: rest =>
      classBody? n room f (some (combine f left items.toTall, .symDiff)) {} rest
    | cs' =>
      (classRange? f cs').bind fun (c, rest) => classBody? n room f left (items.push ⟨c, 0⟩) rest

def bracketClass? (f : Flags) (cs : Text) : Option (Tall × Text) :=
  let (negated, start, inside) := classOpening f cs
  (classBody? (cs.length + 1) nestLimit f none start inside).bind fun (inner, rest) =>
    (negateIf? f negated inner.charClass).map fun c => (⟨c, inner.height + 1⟩, rest)

end PureLint.Regex.Reader
