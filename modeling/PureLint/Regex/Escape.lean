import PureLint.Regex.Basic
import PureLint.Regex.Property

/-!
# Escapes of regular expressions

The flags that are in force while an expression is read, the blanks and comments that do not count
where free spacing is on, and what a backslash and the characters behind it stand for.
-/

namespace PureLint.Regex.Reader

structure Flags where
  ignoreCase : Bool := false
  multiLine : Bool := false
  dotAll : Bool := false
  unicode : Bool := true
  crlf : Bool := false
  extended : Bool := false
  swapGreed : Bool := false

/-! ## Blanks -/

def isBlank (c : Char) : Bool := CharClass.unicodeSpace.has c.toNat

/-- Skips blanks and comments; the flag says that a comment is being read. -/
def skipFreeSpace : Bool → Text → Text
  | _, [] => []
  | true, c :: cs => skipFreeSpace (c != '\n') cs
  | false, c :: cs =>
    if c == '#' then skipFreeSpace true cs
    else if isBlank c then skipFreeSpace false cs
    else c :: cs

/-- Skips blanks and comments where they do not count. -/
def skipSpace (f : Flags) (cs : Text) : Text := if f.extended then skipFreeSpace false cs else cs

/-- What stands in front of a closing brace, without what does not count, and what follows the
brace. The flag says that a comment is being read. -/
def upToBrace? (f : Flags) : Bool → Text → Option (Text × Text)
  | _, [] => none
  | true, c :: cs => upToBrace? f (c != '\n') cs
  | false, c :: cs =>
    if f.extended && c == '#' then upToBrace? f true cs
    else if f.extended && isBlank c then upToBrace? f false cs
    else if c == '\x7d' then some ([], cs)
    else (upToBrace? f false cs).map fun (inside, rest) => (c :: inside, rest)

/-- Characters that stand for something other than themselves. -/
def isMeta (c : Char) : Bool :=
  ['\x5c', '.', '+', '*', '?', '(', ')', '|', '[', ']', '\x7b', '\x7d', '^', '$', '#', '&', '-',
    '~'].contains c

/-- Characters that may be written behind a backslash to stand for themselves. -/
def isEscapable (c : Char) : Bool :=
  isMeta c || (c.toNat < 0x80 && !c.isAlphanum && c != '<' && c != '>')

/-! ## Case and negation -/

/-- The class with the other cases of its members, where case is ignored. -/
def foldIf (f : Flags) (c : CharClass) : CharClass :=
  if f.ignoreCase then c.foldCase f.unicode else c

/-- The class or its complement. Without Unicode a complement could match half a character, so there
is none. -/
def negateIf? (f : Flags) (negated : Bool) (c : CharClass) : Option CharClass :=
  if !negated then some c else if f.unicode then some c.compl else none

/-! ## Escapes -/

inductive Escape where
  | literal (n : Nat)
  | charClass (c : CharClass)
  | look (l : Look)

/-- The value of hexadecimal digits, if it is a character. -/
def hexChar? (digits : Text) : Option Nat := (Unicode.hexValue? digits).filter Nat.isValidChar

def hexDigits? (f : Flags) : Nat → Text → Option (Text × Text)
  | 0, cs => some ([], cs)
  | n + 1, cs =>
    match skipSpace f cs with
    | [] => none
    | c :: rest =>
      if (Unicode.hexDigit? c).isSome then (hexDigits? f n rest).map fun (ds, r) => (c :: ds, r)
      else none

/-- Reads a code point in hexadecimal: that many digits, or any number in braces. The flag of the
result says that it was written without braces. -/
def hexEscape? (f : Flags) (digits : Nat) (cs : Text) : Option (Nat × Bool × Text) :=
  match skipSpace f cs with
  | '\x7b' :: rest =>
    (upToBrace? f false rest).bind fun (ds, r) => (hexChar? ds).map fun n => (n, false, r)
  | rest => (hexDigits? f digits rest).bind fun (ds, r) => (hexChar? ds).map fun n => (n, true, r)

/-- The two sides of the first place where a text stands in another one. -/
def splitAt? (mark inside : Text) : Option (Text × Text) :=
  match inside with
  | [] => none
  | c :: cs =>
    if mark.isPrefixOf (c :: cs) then some ([], (c :: cs).drop mark.length)
    else (splitAt? mark cs).map fun (a, b) => (c :: a, b)

/-- The class of a property written in braces: a name, or a name and a value. All three signs
between name and value mean the same. -/
def bracedProperty? (inside : Text) : Option CharClass :=
  match splitAt? ['!', '='] inside <|> splitAt? [':'] inside <|> splitAt? ['='] inside with
  | some (name, value) => CharClass.valued? name value
  | none => CharClass.named? inside

def property? (f : Flags) (negated : Bool) (cs : Text) : Option (CharClass × Text) :=
  let found : Option (CharClass × Text) :=
    match skipSpace f cs with
    | '\x7b' :: rest =>
      (upToBrace? f false rest).bind fun (inside, r) => (bracedProperty? inside).map fun c => (c, r)
    | c :: rest => (CharClass.named? [c]).map fun cls => (cls, rest)
    | [] => none
  if !f.unicode then none
  else found.bind fun (c, rest) => (negateIf? f negated (foldIf f c)).map fun c' => (c', rest)

def letterClass? (f : Flags) (c : Char) : Option (Option CharClass) :=
  match c with
  | 'd' => some (some (.digit f.unicode))
  | 's' => some (some (.space f.unicode))
  | 'w' => some (some (.word f.unicode))
  | 'D' => some (negateIf? f true (.digit f.unicode))
  | 'S' => some (negateIf? f true (.space f.unicode))
  | 'W' => some (negateIf? f true (.word f.unicode))
  | _ => none

def boundaryNames (unicode : Bool) : List (String × Look) :=
  [("start", .wordStart unicode), ("end", .wordEnd unicode), ("start-half", .wordStartHalf unicode),
   ("end-half", .wordEndHalf unicode)]

/-- Reads what may follow the letter of a word boundary: a name in braces. Braces with anything else
are left. -/
def boundary? (f : Flags) (cs : Text) : Option (Escape × Text) :=
  match cs with
  | '\x7b' :: rest =>
    match skipSpace f rest with
    | [] => none
    | c :: _ =>
      if c.isAlpha || c == '-' then
        (upToBrace? f false rest).bind fun (name, r) =>
          ((boundaryNames f.unicode).lookup (String.ofList name)).map fun l => (.look l, r)
      else some (.look (.wordBoundary f.unicode), cs)
  | _ => some (.look (.wordBoundary f.unicode), cs)

def controlLetters : List (Char × Nat) :=
  [('a', 7), ('f', 12), ('t', 9), ('n', 10), ('r', 13), ('v', 11)]

/-- Reads what follows a backslash. Without Unicode two hexadecimal digits are a byte, which is a
character only in ASCII. -/
def escape? (f : Flags) : Text → Option (Escape × Text)
  | [] => none
  | c :: cs =>
    match letterClass? f c with
    | some (some cls) => some (.charClass cls, cs)
    | some none => none
    | none =>
      match controlLetters.lookup c with
      | some n => some (.literal n, cs)
      | none =>
        if c == 'x' then
          (hexEscape? f 2 cs).bind fun (n, plain, r) =>
            if plain && !f.unicode && 0x80 ≤ n then none else some (.literal n, r)
        else if c == 'u' then (hexEscape? f 4 cs).map fun (n, _, r) => (.literal n, r)
        else if c == 'U' then (hexEscape? f 8 cs).map fun (n, _, r) => (.literal n, r)
        else if c == 'p' || c == 'P' then
          (property? f (c == 'P') cs).map fun (cls, r) => (.charClass cls, r)
        else if c == 'A' then some (.look .textStart, cs)
        else if c == 'z' then some (.look .textEnd, cs)
        else if c == 'b' then boundary? f cs
        else if c == 'B' then some (.look (.notWordBoundary f.unicode), cs)
        else if c == '<' then some (.look (.wordStart f.unicode), cs)
        else if c == '>' then some (.look (.wordEnd f.unicode), cs)
        else if isEscapable c then some (.literal c.toNat, cs)
        else none

end PureLint.Regex.Reader
