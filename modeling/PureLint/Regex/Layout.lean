import PureLint.Regex.Basic

/-!
# The layout of an expression

Before automata are built an expression is simplified. Characters beside each other become a word,
rows in a row and choices in a choice are opened, a choice between single characters or between
classes becomes a class, repetitions that are made once or not at all disappear, and what all rows
of a choice begin with is moved in front of it. What matches stays the same; how much room the
automata take does not.
-/

namespace PureLint.Regex

/-- A simplified expression. Rows and choices have their first item beside the others. -/
inductive Layout where
  | nothing
  | word (codes : List Nat)
  | oneOf (c : CharClass)
  | look (l : Look)
  | repeated (l : Layout) (least : Nat) (most : Option Nat) (greedy : Bool)
  | numbered (l : Layout)
  | row (first rest : Layout)
  | choice (first rest : Layout)
deriving DecidableEq, Repr

namespace Layout

/-- A class of one character is a word. -/
def ofClass (c : CharClass) : Layout :=
  match c.ranges with
  | [⟨a, b⟩] => if a = b then word [a] else oneOf c
  | _ => oneOf c

/-! ## Rows -/

/-- One item in front of a row. Words that meet are joined. -/
def cons : Layout → Layout → Layout
  | nothing, l => l
  | a, nothing => a
  | word s, word t => word (s ++ t)
  | word s, row (word t) l => row (word (s ++ t)) l
  | a, l => row a l

def append : Layout → Layout → Layout
  | row a l, l' => cons a (append l l')
  | a, l' => cons a l'

def ofItems (as : List Layout) : Layout := as.foldr cons nothing

def items : Layout → List Layout
  | row a l => a :: items l
  | a => [a]

def isRow : Layout → Bool
  | row _ _ => true
  | _ => false

/-! ## Repetitions -/

/-- Whether it matches no character at all. -/
def isEmptyOnly : Layout → Bool
  | nothing | look _ => true
  | word _ | oneOf _ => false
  | repeated l _ _ _ | numbered l => isEmptyOnly l
  | row a l | choice a l => isEmptyOnly a && isEmptyOnly l

/-- A repetition that must be made `least` times and can be made `most` times. -/
def bounded (l : Layout) (greedy : Bool) : Nat → Option Nat → Layout
  | 0, some 0 => nothing
  | 1, some 1 => l
  | least, most => repeated l least most greedy

/-- A repetition. Nothing is gained by more than one round without a character. -/
def repetition (l : Layout) (least : Nat) (most : Option Nat) (greedy : Bool) : Layout :=
  if l.isEmptyOnly then l.bounded greedy (min least 1) (some (min (most.getD 1) 1))
  else l.bounded greedy least most

/-! ## Choices -/

def alternatives : Layout → List Layout
  | choice a l => a :: alternatives l
  | a => [a]

def single? : Layout → Option Unicode.Ranges
  | word [n] => some [⟨n, n⟩]
  | _ => none

def class? : Layout → Option Unicode.Ranges
  | oneOf c => some c.ranges
  | _ => none

/-- The characters of alternatives, if all are single characters or all are classes. -/
def charClass? (as : List Layout) : Option CharClass :=
  (as.mapM single? <|> as.mapM class?).map fun rs => .ofRanges rs.flatten

/-- Alternatives one after the other. -/
def spine : List Layout → Layout
  | [] => oneOf .empty
  | [a] => a
  | a :: as => choice a (spine as)

/-- A choice between alternatives that begin with nothing in common. -/
def choose (as : List Layout) : Layout :=
  match charClass? as with
  | some c => ofClass c
  | none => spine as

/-- Whether there is a numbered group in it. No two of them are the same. -/
def hasNumbered : Layout → Bool
  | nothing | word _ | oneOf _ | look _ => false
  | numbered _ => true
  | repeated l _ _ _ => hasNumbered l
  | row a l | choice a l => hasNumbered a || hasNumbered l

/-- What two rows begin with. -/
def common : List Layout → List Layout → List Layout
  | a :: as, b :: bs => if a = b ∧ a.hasNumbered = false then a :: common as bs else []
  | _, _ => []

/-- What all alternatives begin with, if all of them are rows. -/
def beginning : List Layout → List Layout
  | [] => []
  | a :: as =>
    if (a :: as).all isRow then as.foldl (fun p b => common p b.items) a.items else []

/-- The items of an alternative from the `n`-th on. -/
def behind (n : Nat) (a : Layout) : Layout := ofItems (a.items.drop n)

/-- A choice, with what all alternatives begin with in front of it. -/
def anyOf : List Layout → Layout
  | [a] => a
  | as =>
    let opened := as.flatMap alternatives
    match beginning opened with
    | [] => choose opened
    | p => (ofItems p).append (choose ((opened.map (behind p.length)).flatMap alternatives))

end Layout

/-- The layouts of the alternatives of an expression. -/
def layouts : Regex → List Layout
  | empty => [.nothing]
  | chars c => [.ofClass c]
  | look l => [.look l]
  | cat a b => [(Layout.anyOf (layouts a)).append (.anyOf (layouts b))]
  | alt a b => layouts a ++ layouts b
  | rep r least most greedy => [(Layout.anyOf (layouts r)).repetition least most greedy]
  | group numbered r =>
    let l := Layout.anyOf (layouts r)
    [if numbered then .numbered l else l]

def layout (r : Regex) : Layout := .anyOf (layouts r)

end PureLint.Regex
