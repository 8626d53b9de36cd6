/-!
# Text and byte offsets

A text is a list of characters. Positions in a text are byte offsets into its UTF-8 form, so this
module measures texts in bytes (`byteLength`), cuts them at a byte offset (`cutAt?`, `slice?`) and
searches them (`findByte?`, `rfindByte?`). A cut inside a character, or beyond the end, is `none`.
-/

namespace PureLint

/-- A text: its characters in order. -/
abbrev Text := List Char

namespace Text

/-- The number of bytes of the UTF-8 form. -/
def byteLength : Text → Nat
  | [] => 0
  | c :: cs => c.utf8Size + byteLength cs

@[simp] theorem byteLength_nil : byteLength [] = 0 := rfl

@[simp] theorem byteLength_cons (c : Char) (cs : Text) :
    byteLength (c :: cs) = c.utf8Size + byteLength cs := rfl

@[simp] theorem byteLength_append (s t : Text) :
    byteLength (s ++ t) = byteLength s + byteLength t := by
  induction s with
  | nil => simp
  | cons c cs ih => simp [ih, Nat.add_assoc]

/-- Cuts a text at a byte offset. The offset has to lie on a character boundary. -/
def cutAt? : Nat → Text → Option (Text × Text)
  | 0, s => some ([], s)
  | _ + 1, [] => none
  | n + 1, c :: cs =>
    if c.utf8Size ≤ n + 1 then
      (cutAt? (n + 1 - c.utf8Size) cs).map fun p => (c :: p.1, p.2)
    else none
termination_by structural _ s => s

/-- The two parts of a cut make up the text. -/
theorem append_of_cutAt? {n : Nat} {s a b : Text} (h : cutAt? n s = some (a, b)) : a ++ b = s := by
  induction s generalizing n a b with
  | nil => cases n <;> simp [cutAt?] at h; simp [h]
  | cons c cs ih =>
    cases n with
    | zero => simp [cutAt?] at h; simp [← h.1, ← h.2]
    | succ n =>
      simp only [cutAt?] at h
      split at h
      · obtain ⟨p, hp, he⟩ := Option.map_eq_some_iff.1 h
        cases he
        simp [ih hp]
      · simp at h

/-- The first part of a cut has as many bytes as the offset says. -/
theorem byteLength_of_cutAt? {n : Nat} {s a b : Text} (h : cutAt? n s = some (a, b)) :
    byteLength a = n := by
  induction s generalizing n a b with
  | nil => cases n <;> simp [cutAt?] at h; simp [h]
  | cons c cs ih =>
    cases n with
    | zero => simp [cutAt?] at h; simp [h.1]
    | succ n =>
      simp only [cutAt?] at h
      split at h
      · obtain ⟨p, hp, he⟩ := Option.map_eq_some_iff.1 h
        cases he
        have := ih hp
        simp only [byteLength_cons]
        omega
      · simp at h

/-- The bytes from `start` up to `stop`, if both are character boundaries in order. -/
def slice? (start stop : Nat) (s : Text) : Option Text :=
  if start ≤ stop then
    (cutAt? start s).bind fun p => (cutAt? (stop - start) p.2).map Prod.fst
  else none

/-- The bytes from `start` up to `stop`; empty where they do not form a text. -/
def slice (start stop : Nat) (s : Text) : Text := (slice? start stop s).getD []

/-- The bytes from `start` on, if that is a character boundary. -/
def dropBytes? (start : Nat) (s : Text) : Option Text := (cutAt? start s).map Prod.snd

/-- Whether `s` begins with `t`. -/
def startsWith (s t : Text) : Bool := t.isPrefixOf s

def endsWith (s t : Text) : Bool := t.isSuffixOf s

/-- The byte offset of the first occurrence of `t` in `s`. -/
def findByte? (t : Text) : Text → Option Nat
  | [] => if t.isEmpty then some 0 else none
  | c :: cs =>
    if t.isPrefixOf (c :: cs) then some 0
    else (findByte? t cs).map (· + c.utf8Size)

def rfindByte? (c : Char) : Text → Option Nat
  | [] => none
  | d :: ds =>
    match rfindByte? c ds with
    | some n => some (n + d.utf8Size)
    | none => if d = c then some 0 else none

def beforeLast? (c : Char) : Text → Option Text
  | [] => none
  | d :: ds =>
    match beforeLast? c ds with
    | some p => some (d :: p)
    | none => if d = c then some [] else none

/-- The pieces between the occurrences of a character; never empty. -/
def splitOn (sep : Char) : Text → List Text
  | [] => [[]]
  | c :: cs =>
    if c = sep then [] :: splitOn sep cs
    else
      match splitOn sep cs with
      | [] => [[c]]
      | p :: ps => (c :: p) :: ps

/-- The pieces written one after the other with `sep` between neighbours. -/
def join (sep : Text) : List Text → Text
  | [] => []
  | [t] => t
  | t :: ts => t ++ sep ++ join sep ts

end Text

structure Span where
  start : Nat
  stop : Nat
deriving DecidableEq, Repr, Inhabited

namespace Span

/-- The source text a span covers; empty where the span does not lie on character boundaries. -/
def textIn (source : Text) (s : Span) : Text := source.slice s.start s.stop

end Span

end PureLint
