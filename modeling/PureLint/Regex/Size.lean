import PureLint.Regex.Layout
import PureLint.Regex.Utf8

/-!
# The size of an expression

An expression is run by two automata over bytes, one that reads forward and one that reads backward.
Their size in bytes of memory is limited (`Regex.fits`), and it depends on how the expression is
laid out: a repetition that is counted is written out, a class becomes one state for each way to
continue an encoding, and words that are the alternatives of a choice share their beginnings.

The size is the one of the state graphs that the automata are built from. It is exact for
expressions whose classes have members, all of them in ASCII. Of other classes the automata are
taken to share every beginning and every continuation that can be shared; an implementation that
forgets some of them needs more room. Classes with the same members count as the same item of a
row, whether they are classes of characters or of bytes.
-/

namespace PureLint.Regex

/-- Which way an automaton reads. -/
inductive Direction where
  | forward | backward
deriving DecidableEq, Repr

namespace Size

def state : Nat := 32

/-- The size of an edge for a range of bytes. -/
def edge : Nat := 8

/-- The size of a reference to another state. -/
def branch : Nat := 4

/-- The size of a class with more than one member. -/
def ofClass (d : Direction) (c : CharClass) : Nat :=
  if c.isAscii then 2 * state + edge * c.ranges.length
  else
    let ss := Utf8.byteSequences c
    match d with
    | .forward =>
      (Utf8.states ss).foldl (fun n s => n + state + edge * (Utf8.branches s).length) state
    | .backward => 2 * state + state * Utf8.pathCount 4 ss + branch * ss.length

/-- The size of a word: one state for each byte. -/
def ofWord (codes : List Nat) : Nat := state * (codes.flatMap Utf8.bytes).length

/-- The size of a repetition of something of the given size. -/
def ofRepetition (size : Nat) (emptyToo : Bool) (least : Nat) : Option Nat → Nat
  | some most =>
    if least = most then most * size
    else if least = 0 ∧ most = 1 then 2 * state + 2 * branch + size
    else max (least * size) (if least = 0 then state else 0) + state +
      (most - least) * (state + 2 * branch + size)
  | none =>
    if least = 0 ∧ emptyToo then 3 * state + 4 * branch + size
    else max least 1 * size + state + 2 * branch

/-! ## Words that share their beginnings -/

/-- The runs of words between those that are finished. -/
def runs : List (List Nat) → List (List (List Nat))
  | [] => [[]]
  | [] :: ws => [] :: runs ws
  | w :: ws =>
    match runs ws with
    | r :: rs => (w :: r) :: rs
    | [] => [[w]]

/-- Leaves out finished words in front as long as there is another one. -/
def dropFinished : List (List Nat) → List (List Nat)
  | [] :: [] :: ws => dropFinished ([] :: ws)
  | ws => ws

/-- The rests of the words that begin with a byte. -/
def after (b : Nat) (ws : List (List Nat)) : List (List Nat) :=
  ws.filterMap fun
    | b' :: w => if b' = b then some w else none
    | [] => none

/-- The size of the states from where the words, of at most `n` bytes, are told apart. A finished
word has its place among the others; what stands in front of it is tried before it. -/
def ofBranching : Nat → List (List Nat) → Nat
  | 0, _ => 0
  | n + 1, ws =>
    if ws.all List.isEmpty then 0
    else
      let rs := runs (dropFinished ws)
      let filled := rs.filter (!·.isEmpty)
      let ofRun (r : List (List Nat)) : Nat :=
        let bytes := (r.filterMap List.head?).eraseDups
        state + (if bytes.length = 1 then 0 else edge * bytes.length) +
          (bytes.map fun b => ofBranching n (after b r)).sum
      state + branch * (filled.length + (rs.length - 1)) + (filled.map ofRun).sum

/-- The size of a choice between words, with the state behind it. -/
def ofWords (d : Direction) (words : List (List Nat)) : Nat :=
  let bytes := words.map (·.flatMap Utf8.bytes)
  let read := match d with
    | .forward => bytes
    | .backward => bytes.map List.reverse
  state + ofBranching ((read.map List.length).foldl max 0) read

end Size

namespace Layout

/-- The fewest characters it matches. There is no such number for a class without members. -/
def shortest : Layout → Option Nat
  | nothing | look _ => some 0
  | word cs => some cs.length
  | oneOf c => if c.ranges.isEmpty then none else some 1
  | repeated l least _ _ => (shortest l).map (least * ·)
  | numbered l => shortest l
  | row a l => (shortest a).bind fun m => (shortest l).map (m + ·)
  | choice a l => (shortest a).bind fun m => (shortest l).map (min m ·)

/-- What the size of a layout depends on: the number of its alternatives, what they take together,
and the words if all of them are words. -/
structure Extent where
  count : Nat := 1
  total : Nat
  words : Option (List (List Nat)) := none

/-- The size of a layout of that extent. Words share their beginnings, other alternatives are joined
by a state that refers to each of them. -/
def Extent.size (d : Direction) (e : Extent) : Nat :=
  if e.count ≤ 1 then e.total
  else
    match e.words with
    | some ws => Size.ofWords d ws
    | none => 2 * Size.state + Size.branch * e.count + e.total

def extent (d : Direction) : Layout → Extent
  | nothing => { total := Size.state }
  | word cs => { total := Size.ofWord cs, words := some [cs] }
  | oneOf c => { total := Size.ofClass d c }
  | look _ => { total := Size.state }
  | repeated l least most _ =>
    { total := Size.ofRepetition ((extent d l).size d) (!(shortest l).any (0 < ·)) least most }
  | numbered l =>
    let size := (extent d l).size d
    match d with
    | .forward => { total := size + 2 * Size.state }
    | .backward => { total := size }
  | row a l => { total := (extent d a).size d + (extent d l).size d }
  | choice a l =>
    let x := extent d a
    let y := extent d l
    { count := x.count + y.count
      total := x.total + y.total
      words := x.words.bind fun ws => y.words.map (ws ++ ·) }

def size (d : Direction) (l : Layout) : Nat := (l.extent d).size d

/-- Whether every match begins where the condition holds. -/
def begins (cond : Look) : Layout → Bool
  | nothing | word _ | oneOf _ => false
  | look l => l = cond
  | repeated l least _ _ => 0 < least && begins cond l
  | numbered l => begins cond l
  | row a l => begins cond a || (isEmptyOnly a && begins cond l)
  | choice a l => begins cond a && begins cond l

def ends (cond : Look) : Layout → Bool
  | nothing | word _ | oneOf _ => false
  | look l => l = cond
  | repeated l least _ _ => 0 < least && ends cond l
  | numbered l => ends cond l
  | row a l => ends cond l || (isEmptyOnly l && ends cond a)
  | choice a l => ends cond a && ends cond l

/-- The size of what surrounds a layout: the states that begin and end a match, and the loop that
passes over what stands in front of it, unless a match can begin at one end of the text only. -/
def surroundings : Direction → Layout → Nat
  | .forward, l => 3 * Size.state + (if l.begins .textStart then Size.state else loop)
  | .backward, l => Size.state + (if l.ends .textEnd then Size.state else loop)
where
  loop : Nat := 3 * Size.state + 2 * Size.branch + Size.edge

/-- Many words by themselves are looked up in a table of their own. -/
def isTable (l : Layout) : Bool :=
  3000 ≤ (l.extent .forward).count && (l.extent .forward).words.isSome

end Layout

/-- The size of the automaton of an expression. -/
def size (d : Direction) (r : Regex) : Nat := r.layout.size d + r.layout.surroundings d

/-- The most room an automaton may take. -/
def sizeLimit : Nat := 10 * Nat.pow 2 20

/-- Whether both automata of an expression stay within the limit. -/
def fits (r : Regex) : Bool :=
  r.layout.isTable || (r.size .forward ≤ sizeLimit && r.size .backward ≤ sizeLimit)

end PureLint.Regex
