import PureLint.Regex.Bracket
import PureLint.Regex.Size

/-!
# Reading regular expressions

The written form of a regular expression: literals and escapes, classes in brackets with set
operations, groups with flags, and counted repetitions. `Regex.parse?` reads a whole text; `none`
means that it is not well formed, which includes look-around, references back to a group and nesting
that is too deep. `Regex.compile?` also refuses what takes too much room.
-/

namespace PureLint.Regex.Reader

/-! ## Repetition -/

/-- Reads decimal digits, with nothing that counts between them. -/
def decimalDigits (f : Flags) : Nat → Text → Text × Text
  | 0, cs => ([], cs)
  | _ + 1, [] => ([], [])
  | n + 1, c :: cs =>
    if c.isDigit then
      let (ds, rest) := decimalDigits f n (skipSpace f cs)
      (c :: ds, rest)
    else ([], c :: cs)

def skipBlanks (f : Flags) (cs : Text) : Text :=
  if f.extended then skipSpace f cs else cs.dropWhile isBlank

/-- Reads a decimal number, with blanks around it. -/
def decimal? (f : Flags) (cs : Text) : Option (Nat × Text) :=
  let (ds, rest) := decimalDigits f cs.length (skipBlanks f cs)
  if ds.isEmpty then none
  else
    let n := ds.foldl (fun n c => n * 10 + (c.toNat - '0'.toNat)) 0
    if n < Nat.pow 2 32 then some (n, skipBlanks f rest) else none

/-- Reads the bounds of a repetition behind its opening brace. -/
def bounds? (f : Flags) (cs : Text) : Option (Nat × Option Nat × Text) :=
  (decimal? f cs).bind fun (least, rest) =>
    match rest with
    | '\x7d' :: rest' => some (least, some least, rest')
    | ',' :: rest' =>
      match skipSpace f rest' with
      | '\x7d' :: rest'' => some (least, none, rest'')
      | rest'' =>
        (decimal? f rest'').bind fun (most, rest''') =>
          match rest''' with
          | '\x7d' :: after => if least ≤ most then some (least, some most, after) else none
          | _ => none
    | _ => none

/-- Whether a repetition tries more rounds first, by the text behind it. -/
def isGreedy (f : Flags) (cs : Text) : Bool := (cs.head? == some '?') == f.swapGreed

/-- Skips the mark that turns the order of the rounds around. -/
def skipLazyMark : Text → Text
  | '?' :: rest => rest
  | cs => cs

/-! ## Groups and alternatives -/

def setFlag? (f : Flags) (value : Bool) (c : Char) : Option Flags :=
  if c == 'i' then some { f with ignoreCase := value }
  else if c == 'm' then some { f with multiLine := value }
  else if c == 's' then some { f with dotAll := value }
  else if c == 'U' then some { f with swapGreed := value }
  else if c == 'u' then some { f with unicode := value }
  else if c == 'R' then some { f with crlf := value }
  else if c == 'x' then some { f with extended := value }
  else none

/-- Reads flags up to a colon or a closing parenthesis. The result says which of the two ended
them. -/
def flags? : Flags → Bool → List Char → Text → Option (Flags × Bool × Text)
  | _, _, _, [] => none
  | f, value, seen, c :: cs =>
    if c == ':' || c == ')' then
      if seen.head? == some '-' || (c == ')' && seen.isEmpty) then none else some (f, c == ':', cs)
    else if seen.contains c then none
    else if c == '-' then flags? f false (c :: seen) cs
    else (setFlag? f value c).bind fun f' => flags? f' value (c :: seen) cs

/-- Letters and what else counts as alphabetic. -/
def alphabetic : CharClass := .ofRanges (Unicode.Property.toRanges .alphabetic)

def numeric : CharClass := .ofRanges (Unicode.Property.ofCategories [.nd, .nl, .no])

def isNameChar (first : Bool) (c : Char) : Bool :=
  c == '_' || alphabetic.has c.toNat ||
    (!first && (c == '.' || c == '[' || c == ']' || numeric.has c.toNat))

/-- Reads the name of a group up to its closing angle bracket. -/
def groupName? (cs : Text) : Option (Text × Text) :=
  let name := cs.takeWhile (· != '>')
  match name, cs.drop name.length with
  | c :: rest, _ :: after =>
    if isNameChar true c && rest.all (isNameChar false) then some (name, after) else none
  | _, _ => none

inductive Opening where
  /-- A numbered group, which may have a name. -/
  | capture (name : Option Text) (rest : Text)
  /-- A group that is not numbered, with its flags. -/
  | group (f : Flags) (rest : Text)
  /-- Flags for what follows. -/
  | flags (f : Flags) (rest : Text)

def opening? (f : Flags) (cs : Text) : Option Opening :=
  match skipSpace f cs with
  | '?' :: '=' :: _ | '?' :: '!' :: _ | '?' :: '<' :: '=' :: _ | '?' :: '<' :: '!' :: _ => none
  | '?' :: 'P' :: '<' :: rest => (groupName? rest).map fun (name, r) => .capture (some name) r
  | '?' :: '<' :: rest => (groupName? rest).map fun (name, r) => .capture (some name) r
  | '?' :: rest =>
    (flags? f true [] rest).map fun (f', isGroup, r) => if isGroup then .group f' r else .flags f' r
  | rest => some (.capture none rest)

/-- A part of an expression and how deep groups, repetitions, classes, sequences and choices are
nested in it. -/
structure Part where
  regex : Regex
  height : Nat := 0
  /-- Whether the part can be repeated. Flags that stand by themselves cannot. -/
  repeatable : Bool := true

/-- What has been read of a group: finished alternatives and the parts of the current one, the last
first. -/
structure Draft where
  alternatives : List Part := []
  parts : List Part := []
  names : List Text := []

/-- Parts, the last first, joined to one that is a level higher if there is more than one. -/
def joined (join : Regex → Regex → Regex) : List Part → Part
  | [] => { regex := .empty }
  | [p] => p
  | p :: ps =>
    { regex := ps.foldl (fun r q => join q.regex r) p.regex
      height := ps.foldl (fun h q => max h q.height) p.height + 1 }

/-- One expression behind another; nothing beside an expression is dropped. -/
def behind : Regex → Regex → Regex
  | .empty, r => r
  | r, .empty => r
  | a, b => .cat a b

def Draft.sequence (d : Draft) : Part := joined behind d.parts

def Draft.close (d : Draft) : Part := joined .alt (d.sequence :: d.alternatives)

def Draft.push (d : Draft) (p : Part) : Draft := { d with parts := p :: d.parts }

def Draft.pushGroup (d : Draft) (numbered : Bool) (inner : Draft) : Draft :=
  let p := inner.close
  { d.push { regex := .group numbered p.regex, height := p.height + 1 } with names := inner.names }

def Draft.repeatLast? (d : Draft) (least : Nat) (most : Option Nat) (greedy : Bool) :
    Option Draft :=
  match d.parts with
  | p :: ps =>
    if p.repeatable then
      let regex := .rep p.regex least most greedy
      some { d with parts := { regex, height := p.height + 1 } :: ps }
    else none
  | [] => none

/-- Any character but a line end, or any at all. -/
def dot (f : Flags) : CharClass :=
  if f.dotAll then .any
  else if f.crlf then .compl (.union (.single 10) (.single 13))
  else .compl (.single 10)

def literal (f : Flags) (n : Nat) : Regex := .chars (foldIf f (.single n))

def caret (f : Flags) : Look :=
  if !f.multiLine then .textStart else if f.crlf then .crlfLineStart else .lineStart

def dollar (f : Flags) : Look :=
  if !f.multiLine then .textEnd else if f.crlf then .crlfLineEnd else .lineEnd

/-- Reads a single part that is neither a group nor a repetition. -/
def atom? (f : Flags) : Text → Option (Part × Text)
  | [] => none
  | c :: cs =>
    if c == '.' then if f.unicode then some ({ regex := .chars (dot f) }, cs) else none
    else if c == '^' then some ({ regex := .look (caret f) }, cs)
    else if c == '$' then some ({ regex := .look (dollar f) }, cs)
    else if c == '[' then
      (bracketClass? f cs).map fun (t, rest) =>
        ({ regex := .chars t.charClass, height := t.height }, rest)
    else if c == '\x5c' then
      match escape? f cs with
      | some (.literal n, rest) => some ({ regex := literal f n }, rest)
      | some (.charClass cls, rest) => some ({ regex := .chars cls }, rest)
      | some (.look l, rest) => some ({ regex := .look l }, rest)
      | none => none
    else some ({ regex := literal f c.toNat }, cs)

/-- Reads a group up to its closing parenthesis, which is left, or to the end, with room for that
many groups inside each other. -/
def body? : Nat → Nat → Flags → Draft → Text → Option (Draft × Text)
  | 0, _, _, _, _ => none
  | n + 1, room, f, d, cs =>
    match skipSpace f cs with
    | [] => some (d, [])
    | c :: cs' =>
      if c == ')' then some (d, c :: cs')
      else if c == '|' then
        body? n room f { d with alternatives := d.sequence :: d.alternatives, parts := [] } cs'
      else if c == '*' then
        (d.repeatLast? 0 none (isGreedy f cs')).bind fun d' => body? n room f d' (skipLazyMark cs')
      else if c == '+' then
        (d.repeatLast? 1 none (isGreedy f cs')).bind fun d' => body? n room f d' (skipLazyMark cs')
      else if c == '?' then
        (d.repeatLast? 0 (some 1) (isGreedy f cs')).bind fun d' =>
          body? n room f d' (skipLazyMark cs')
      else if c == '\x7b' then
        (bounds? f cs').bind fun (least, most, rest) =>
          let after := skipSpace f rest
          (d.repeatLast? least most (isGreedy f after)).bind fun d' =>
            body? n room f d' (skipLazyMark after)
      else if c == '(' then
        match opening? f cs' with
        | none => none
        | some (.flags f' rest) =>
          body? n room f' (d.push { regex := .empty, repeatable := false }) rest
        | some (.group f' rest) =>
          if room = 0 then none
          else
            (body? n (room - 1) f' { names := d.names } rest).bind fun (inner, after) =>
              match after with
              | _ :: after' => body? n room f (d.pushGroup false inner) after'
              | [] => none
        | some (.capture name rest) =>
          if room = 0 || name.any d.names.contains then none
          else
            (body? n (room - 1) f { names := name.toList ++ d.names } rest).bind
              fun (inner, after) =>
              match after with
              | _ :: after' => body? n room f (d.pushGroup true inner) after'
              | [] => none
      else (atom? f (c :: cs')).bind fun (p, rest) => body? n room f (d.push p) rest

end Reader

def parse? (pattern : Text) : Option Regex :=
  match Reader.body? (2 * pattern.length + 2) Reader.nestLimit {} {} pattern with
  | some (d, []) => if d.close.height ≤ Reader.nestLimit then some d.close.regex else none
  | _ => none

/-- Reads a regular expression that does not take too much room. -/
def compile? (pattern : Text) : Option Regex := (parse? pattern).filter fits

end PureLint.Regex
