import PureLint.Token.Basic
import PureLint.Unicode.Identifier

/-!
# Reading tokens

Each function reads one lexical form from the front of a text and returns what it read, how many
bytes that took and the text behind it; `none` means that the text does not begin with the form.
`nextToken` skips blanks and comments and reads the next token. Regular expressions, template pieces
and markup text have functions of their own, which the grammar calls where it knows that one of them
stands there.
-/

namespace PureLint.Scan

/-- What was read, the number of bytes, and the text that follows. -/
structure Piece (α : Type) where
  value : α
  bytes : Nat
  rest : Text

/-! ## Blanks and comments -/

def isLineEnd (c : Char) : Bool :=
  c == '\n' || c == '\r' || c == '\u2028' || c == '\u2029'

def isBlank (c : Char) : Bool :=
  if c.toNat < 0x80 then c == ' ' || c == '\t' || c == '\x0b' || c == '\x0c'
  else
    c == '\u0085' || c == '\u00a0' || c == '\u1680' || c == '\u180e' ||
      ('\u2000' ≤ c && c ≤ '\u200b') ||
      c == '\u202f' || c == '\u205f' || c == '\u3000' || c == '\ufeff'

/-- Where the skipping of blanks and comments stands. -/
inductive TriviaMode where
  | code | lineComment | blockComment

/-- Skips blanks and comments; `none` for a block comment that does not end. -/
def skipTrivia : TriviaMode → Text → Nat → Bool → Option (Text × Nat × Bool)
  | .code, [], pos, nl => some ([], pos, nl)
  | .code, '/' :: '/' :: cs, pos, nl => skipTrivia .lineComment cs (pos + 2) nl
  | .code, '/' :: '*' :: cs, pos, nl => skipTrivia .blockComment cs (pos + 2) nl
  | .code, c :: cs, pos, nl =>
    if isLineEnd c then skipTrivia .code cs (pos + c.utf8Size) true
    else if isBlank c then skipTrivia .code cs (pos + c.utf8Size) nl
    else some (c :: cs, pos, nl)
  | .lineComment, [], pos, nl => some ([], pos, nl)
  | .lineComment, c :: cs, pos, nl =>
    if isLineEnd c then skipTrivia .code cs (pos + c.utf8Size) true
    else skipTrivia .lineComment cs (pos + c.utf8Size) nl
  | .blockComment, [], _, _ => none
  | .blockComment, '*' :: '/' :: cs, pos, nl => skipTrivia .code cs (pos + 2) nl
  | .blockComment, c :: cs, pos, nl =>
    skipTrivia .blockComment cs (pos + c.utf8Size) (nl || isLineEnd c)

/-! ## Escapes -/

/-- Reads exactly `n` hexadecimal digits. -/
def hexDigits? : Nat → Text → Nat → Option (Nat × Text)
  | 0, cs, acc => some (acc, cs)
  | _ + 1, [], _ => none
  | n + 1, c :: cs, acc =>
    match Unicode.hexDigit? c with
    | some d => hexDigits? n cs (acc * 16 + d)
    | none => none

/-- Reads hexadecimal digits up to a closing brace; at least one, and no more than a code point
needs. -/
def bracedHex? : Text → Nat → Nat → Option (Nat × Nat × Text)
  | [], _, _ => none
  | c :: cs, acc, count =>
    if c == '\x7d' then if count = 0 then none else some (acc, count + 1, cs)
    else
      match Unicode.hexDigit? c with
      | some d => if 0x10ffff < acc * 16 + d then none else bracedHex? cs (acc * 16 + d) (count + 1)
      | none => none

/-- Reads what follows `\u`: four digits or digits in braces. -/
def codePoint? : Text → Option (Piece Nat)
  | '\x7b' :: cs => (bracedHex? cs 0 0).map fun (n, count, rest) => ⟨n, count + 1, rest⟩
  | cs => (hexDigits? 4 cs 0).map fun (n, rest) => ⟨n, 4, rest⟩

/-- Reads what follows `\u` in a literal; two escaped halves of a surrogate pair are one code
point. -/
def unicodeEscape? (cs : Text) : Option (Piece Nat) :=
  match codePoint? cs with
  | none => none
  | some high =>
    if 0xd800 ≤ high.value ∧ high.value < 0xdc00 ∧ high.bytes = 4 then
      match high.rest with
      | '\x5c' :: 'u' :: cs' =>
        match hexDigits? 4 cs' 0 with
        | some (low, rest) =>
          if 0xdc00 ≤ low ∧ low < 0xe000 then
            some ⟨0x10000 + (high.value - 0xd800) * 0x400 + (low - 0xdc00), 10, rest⟩
          else some high
        | none => some high
      | _ => some high
    else some high

/-- Whether a code point is half of a surrogate pair, which is no character. -/
def isSurrogate (n : Nat) : Bool := 0xd800 ≤ n && n < 0xe000

/-- A code point in four hexadecimal digits behind the replacement character. -/
def markedHex (n : Nat) : Text :=
  let digit (k : Nat) : Char := Nat.digitChar (n / Nat.pow 16 k % 16)
  ['\ufffd', digit 3, digit 2, digit 1, digit 0]

/-- The text of a literal. Where it holds a lone half of a surrogate pair, that half is written
behind a replacement character, and so is each replacement character of its own. -/
def literalText (points : List Nat) : Text :=
  if points.any isSurrogate then
    points.flatMap fun n => if isSurrogate n || n == 0xfffd then markedHex n else [Char.ofNat n]
  else points.map Char.ofNat

def isOctal (c : Char) : Bool := '0' ≤ c && c ≤ '7'

def digitValue (c : Char) : Nat := c.toNat - '0'.toNat

/-- Reads an octal escape of up to three digits, the first of which has been read. -/
def octalEscape (first : Char) (cs : Text) : Piece Nat :=
  let d := digitValue first
  match cs with
  | a :: b :: rest =>
    if isOctal a && isOctal b && d < 4 then ⟨d * 64 + digitValue a * 8 + digitValue b, 3, rest⟩
    else if isOctal a then ⟨d * 8 + digitValue a, 2, b :: rest⟩
    else ⟨d, 1, cs⟩
  | a :: rest => if isOctal a then ⟨d * 8 + digitValue a, 2, rest⟩ else ⟨d, 1, cs⟩
  | [] => ⟨d, 1, cs⟩

/-- Reads what follows a backslash in a string or template: the code points it stands for. A line
break gives none. Templates take no octal escapes. -/
def escape? (inTemplate : Bool) : Text → Option (Piece (List Nat))
  | [] => none
  | '\r' :: '\n' :: cs => some ⟨[], 2, cs⟩
  | c :: cs =>
    if isLineEnd c then some ⟨[], c.utf8Size, cs⟩
    else if c == 'n' then some ⟨[0x0a], 1, cs⟩
    else if c == 't' then some ⟨[0x09], 1, cs⟩
    else if c == 'r' then some ⟨[0x0d], 1, cs⟩
    else if c == 'b' then some ⟨[0x08], 1, cs⟩
    else if c == 'v' then some ⟨[0x0b], 1, cs⟩
    else if c == 'f' then some ⟨[0x0c], 1, cs⟩
    else if c == 'x' then (hexDigits? 2 cs 0).map fun (n, rest) => ⟨[n], 3, rest⟩
    else if c == 'u' then (unicodeEscape? cs).map fun p => ⟨[p.value], p.bytes + 1, p.rest⟩
    else if isOctal c then
      if inTemplate then
        if c == '0' && !(cs.head?.any fun d => '0' ≤ d && d ≤ '9') then some ⟨[0], 1, cs⟩ else none
      else
        let p := octalEscape c cs
        some ⟨[p.value], p.bytes, p.rest⟩
    else if inTemplate && (c == '8' || c == '9') then none
    else some ⟨[c.toNat], c.utf8Size, cs⟩

/-! ## Words -/

/-- Reads the characters of a word, escapes among them. -/
def wordChars : Nat → Text → Text → Nat → Option (Piece Text)
  | 0, _, _, _ => none
  | n + 1, cs, acc, bytes =>
    match cs with
    | '\x5c' :: 'u' :: cs' =>
      match codePoint? cs' with
      | some p =>
        let c := Char.ofNat p.value
        if !isSurrogate p.value &&
            (if acc.isEmpty then Unicode.isIdStart c else Unicode.isIdPart c) then
          wordChars n p.rest (c :: acc) (bytes + 2 + p.bytes)
        else none
      | none => none
    | '\x5c' :: _ => none
    | c :: cs' =>
      if (if acc.isEmpty then Unicode.isIdStart c else Unicode.isIdPart c) then
        wordChars n cs' (c :: acc) (bytes + c.utf8Size)
      else if acc.isEmpty then none
      else some ⟨acc.reverse, bytes, cs⟩
    | [] => if acc.isEmpty then none else some ⟨acc.reverse, bytes, []⟩

def word? (cs : Text) : Option (Piece Text) := wordChars (cs.length + 1) cs [] 0

def wordToken? (cs : Text) : Option (Piece TokenKind) :=
  (word? cs).map fun p => ⟨.word (Keyword.ofText? p.value) p.value, p.bytes, p.rest⟩

/-! ## Numbers -/

/-- Whether underscores stand only between digits. -/
def separatorsOk : Text → Bool
  | [] => false
  | ['_'] => false
  | [_] => true
  | '_' :: _ => false
  | _ :: '_' :: cs => separatorsOk cs
  | _ :: c :: cs => separatorsOk (c :: cs)

/-- The digits in front, underscores included, and the text behind them. -/
def digitRun (isDigit : Char → Bool) (cs : Text) : Text × Text :=
  (cs.takeWhile fun c => isDigit c || c == '_', cs.dropWhile fun c => isDigit c || c == '_')

/-- The value of a row of digits in a base; underscores do not count. -/
def digitsValue (base : Nat) (ds : Text) : Nat :=
  ds.foldl (fun n c => if c == '_' then n else n * base + (Unicode.hexDigit? c).getD 0) 0

def isDecimal (c : Char) : Bool := '0' ≤ c && c ≤ '9'

/-- Whether a number may end before this text: no letter or digit follows. -/
def endsNumber : Text → Bool
  | [] => true
  | c :: _ => !(Unicode.isIdStart c || isDecimal c || c == '\x5c')

/-- How many digits of a base of a power of two always fit into 64 bits. -/
def wordDigits (base : Nat) : Nat := 64 / Nat.log2 base

/-- The number that a row of digits writes in base 2, 8 or 16. A row that fits into 64 bits is
rounded once; in a longer one the value so far is rounded digit by digit. -/
def radixValue (base : Nat) (ds : Text) : Double :=
  let ds := ds.filter (· != '_')
  if ds.length ≤ wordDigits base then Double.ofNat (digitsValue base ds)
  else ds.foldl (fun x c => x.mulAddNat base ((Unicode.hexDigit? c).getD 0)) (Double.ofNat 0)

/-- Reads the digits of a number in base 2, 8 or 16, after its two-character mark. -/
def radixNumber (base : Nat) (isDigit : Char → Bool) (cs : Text) : Option (Piece TokenKind) :=
  let (ds, rest) := digitRun isDigit cs
  if !separatorsOk ds then none
  else
    match rest with
    | 'n' :: rest' =>
      if endsNumber rest' then some ⟨.bigInt (digitsValue base ds), ds.length + 3, rest'⟩ else none
    | _ => if endsNumber rest then some ⟨.number (radixValue base ds), ds.length + 2, rest⟩
        else none

/-- Reads an exponent: its value and what is behind it. -/
def exponent? : Text → Option (Piece Int)
  | c :: cs =>
    if c == 'e' || c == 'E' then
      let (sign, digits) : Option Char × Text :=
        match cs with
        | '+' :: cs' => (some '+', cs')
        | '-' :: cs' => (some '-', cs')
        | _ => (none, cs)
      let (ds, rest) := digitRun isDecimal digits
      if !separatorsOk ds then none
      else
        let n : Int := digitsValue 10 ds
        some ⟨if sign == some '-' then -n else n, 1 + (if sign.isSome then 1 else 0) + ds.length,
          rest⟩
    else some ⟨0, 0, c :: cs⟩
  | [] => some ⟨0, 0, []⟩

/-- Reads the fraction and the exponent that follow the whole part of a decimal number. -/
def decimalTail (whole : Text) (cs : Text) : Option (Piece TokenKind) :=
  let fraction : Option (Piece Text) :=
    match cs with
    | '.' :: cs' =>
      let (ds, rest) := digitRun isDecimal cs'
      if ds.isEmpty then if whole.isEmpty then none else some ⟨[], 1, rest⟩
      else if separatorsOk ds then some ⟨ds, ds.length + 1, rest⟩
      else none
    | _ => some ⟨[], 0, cs⟩
  fraction.bind fun f =>
    (exponent? f.rest).bind fun e =>
      let places := (f.value.filter (· != '_')).length
      let value := Double.ofDecimal false (digitsValue 10 (whole ++ f.value)) (e.value - places)
      if endsNumber e.rest then some ⟨.number value, whole.length + f.bytes + e.bytes, e.rest⟩
      else none

/-- Reads a number, which begins with a digit, or with a point before a digit. -/
def number? (cs : Text) : Option (Piece TokenKind) :=
  match cs with
  | '0' :: c :: rest =>
    if c == 'x' || c == 'X' then radixNumber 16 (fun d => (Unicode.hexDigit? d).isSome) rest
    else if c == 'o' || c == 'O' then radixNumber 8 isOctal rest
    else if c == 'b' || c == 'B' then radixNumber 2 (fun d => d == '0' || d == '1') rest
    else if isDecimal c then
      let (ds, rest') := digitRun isDecimal cs
      if ds.contains '_' then none
      else if ds.all isOctal then
        if endsNumber rest' then some ⟨.number (radixValue 8 ds), ds.length, rest'⟩ else none
      else decimalTail ds rest'
    else if c == '_' then none
    else if c == 'n' then if endsNumber rest then some ⟨.bigInt 0, 2, rest⟩ else none
    else decimalTail ['0'] (c :: rest)
  | '.' :: _ => decimalTail [] cs
  | _ =>
    let (ds, rest) := digitRun isDecimal cs
    if !separatorsOk ds then none
    else
      match rest with
      | 'n' :: rest' =>
        if endsNumber rest' then some ⟨.bigInt (digitsValue 10 ds), ds.length + 1, rest'⟩ else none
      | _ => decimalTail ds rest

/-! ## Strings, templates, regular expressions, markup -/

/-- Reads the code points of a string up to its closing quote, which has been opened before. -/
def stringPoints (quote : Char) : Nat → Text → List Nat → Nat → Option (Piece (List Nat))
  | 0, _, _, _ => none
  | _ + 1, [], _, _ => none
  | n + 1, c :: cs, acc, bytes =>
    if c == quote then some ⟨acc.reverse, bytes + 1, cs⟩
    else if c == '\x5c' then
      (escape? false cs).bind fun p =>
        stringPoints quote n p.rest (p.value.reverse ++ acc) (bytes + 1 + p.bytes)
    else if c == '\n' || c == '\r' then none
    else stringPoints quote n cs (c.toNat :: acc) (bytes + c.utf8Size)

/-- Whether a string, whose quote begins the text, holds a lone half of a surrogate pair. -/
def holdsLoneSurrogate : Text → Bool
  | [] => false
  | quote :: cs => (stringPoints quote (cs.length + 1) cs [] 1).any fun p => p.value.any isSurrogate

/-- A piece of a template: its text with escapes resolved, if they can be, and whether the template
ends. -/
structure TemplatePiece where
  cooked : Option Text
  last : Bool

/-- Reads a piece of a template up to the closing backtick or the next `$` with a brace. The bytes
counted are those of the piece alone. -/
def templateChars : Nat → Text → Option (List Nat) → Nat → Option (Piece TemplatePiece)
  | 0, _, _, _ => none
  | _ + 1, [], _, _ => none
  | n + 1, c :: cs, acc, bytes =>
    if c == '\x60' then some ⟨⟨acc.map (literalText ·.reverse), true⟩, bytes, cs⟩
    else if c == '$' && cs.head? == some '\x7b' then
      some ⟨⟨acc.map (literalText ·.reverse), false⟩, bytes, cs.tail⟩
    else if c == '\x5c' then
      match escape? true cs with
      | some p => templateChars n p.rest (acc.map (p.value.reverse ++ ·)) (bytes + 1 + p.bytes)
      | none =>
        match cs with
        | d :: ds => templateChars n ds none (bytes + 1 + d.utf8Size)
        | [] => none
    else if c == '\r' then
      if cs.head? == some '\n' then templateChars n cs acc (bytes + 1)
      else templateChars n cs (acc.map (0x0a :: ·)) (bytes + 1)
    else templateChars n cs (acc.map (c.toNat :: ·)) (bytes + c.utf8Size)

def templatePiece? (cs : Text) : Option (Piece TemplatePiece) :=
  templateChars (cs.length + 1) cs (some []) 0

/-- Reads the body of a regular expression up to its closing slash. -/
def regexBody : Bool → Text → Nat → Option (Nat × Text)
  | _, [], _ => none
  | inClass, '\x5c' :: c :: cs, bytes =>
    if isLineEnd c then none else regexBody inClass cs (bytes + 1 + c.utf8Size)
  | inClass, c :: cs, bytes =>
    if isLineEnd c then none
    else if c == '/' && !inClass then some (bytes + 1, cs)
    else regexBody (if c == '[' then true else if c == ']' then false
      else inClass) cs (bytes + c.utf8Size)

/-- Whether the letters after a regular expression are flags, none of them twice. -/
def regexFlagsOk : Text → Bool
  | [] => true
  | c :: cs =>
    ['d', 'g', 'i', 'm', 's', 'u', 'v', 'y'].contains c && !cs.contains c && regexFlagsOk cs

/-- Reads a regular expression whose first slash has been read; the bytes of that slash are not
counted. -/
def regex? (cs : Text) : Option (Piece Unit) :=
  (regexBody false cs 0).bind fun (bytes, rest) =>
    let flags := rest.takeWhile Unicode.isIdPart
    if regexFlagsOk flags then some ⟨(), bytes + flags.length, rest.dropWhile Unicode.isIdPart⟩
    else none

/-- Reads the text between markup tags, up to the next tag or brace. -/
def markupText : Text → Nat → Option (Nat × Text)
  | [], _ => none
  | c :: cs, bytes =>
    if c == '<' || c == '\x7b' then some (bytes, c :: cs)
    else if c == '>' || c == '\x7d' then none
    else markupText cs (bytes + c.utf8Size)

/-- Reads a quoted markup attribute, which knows no escapes. -/
def markupString (quote : Char) : Text → Nat → Option (Nat × Text)
  | [], _ => none
  | c :: cs, bytes =>
    if c == quote then some (bytes + 1, cs) else markupString quote cs (bytes + c.utf8Size)

/-- Reads the rest of a markup name, in which hyphens may stand. -/
def markupName : Text → Text × Text
  | [] => ([], [])
  | c :: cs =>
    if Unicode.isIdPart c || c == '-' then
      let (name, rest) := markupName cs
      (c :: name, rest)
    else ([], c :: cs)

/-! ## Punctuators and tokens -/

/-- Reads the longest punctuator in front; a `>` stands alone. -/
def punct? : Text → Option (Piece Punct)
  | [] => none
  | c :: cs =>
    if c == '(' then some ⟨.parenL, 1, cs⟩
    else if c == ')' then some ⟨.parenR, 1, cs⟩
    else if c == '\x7b' then some ⟨.braceL, 1, cs⟩
    else if c == '\x7d' then some ⟨.braceR, 1, cs⟩
    else if c == '[' then some ⟨.bracketL, 1, cs⟩
    else if c == ']' then some ⟨.bracketR, 1, cs⟩
    else if c == ';' then some ⟨.semi, 1, cs⟩
    else if c == ',' then some ⟨.comma, 1, cs⟩
    else if c == ':' then some ⟨.colon, 1, cs⟩
    else if c == '~' then some ⟨.tilde, 1, cs⟩
    else if c == '@' then some ⟨.at, 1, cs⟩
    else if c == '>' then some ⟨.gt, 1, cs⟩
    else if c == '\x60' then some ⟨.backtick, 1, cs⟩
    else if c == '.' then
      match cs with
      | '.' :: '.' :: r => some ⟨.ellipsis, 3, r⟩
      | _ => some ⟨.dot, 1, cs⟩
    else if c == '=' then
      match cs with
      | '=' :: '=' :: r => some ⟨.eqEqEq, 3, r⟩
      | '=' :: r => some ⟨.eqEq, 2, r⟩
      | '>' :: r => some ⟨.arrow, 2, r⟩
      | _ => some ⟨.assign, 1, cs⟩
    else if c == '!' then
      match cs with
      | '=' :: '=' :: r => some ⟨.notEqEq, 3, r⟩
      | '=' :: r => some ⟨.notEq, 2, r⟩
      | _ => some ⟨.bang, 1, cs⟩
    else if c == '<' then
      match cs with
      | '<' :: '=' :: r => some ⟨.shlAssign, 3, r⟩
      | '<' :: r => some ⟨.shl, 2, r⟩
      | '=' :: r => some ⟨.le, 2, r⟩
      | _ => some ⟨.lt, 1, cs⟩
    else if c == '+' then
      match cs with
      | '+' :: r => some ⟨.plusPlus, 2, r⟩
      | '=' :: r => some ⟨.plusAssign, 2, r⟩
      | _ => some ⟨.plus, 1, cs⟩
    else if c == '-' then
      match cs with
      | '-' :: r => some ⟨.minusMinus, 2, r⟩
      | '=' :: r => some ⟨.minusAssign, 2, r⟩
      | _ => some ⟨.minus, 1, cs⟩
    else if c == '*' then
      match cs with
      | '*' :: '=' :: r => some ⟨.starStarAssign, 3, r⟩
      | '*' :: r => some ⟨.starStar, 2, r⟩
      | '=' :: r => some ⟨.starAssign, 2, r⟩
      | _ => some ⟨.star, 1, cs⟩
    else if c == '/' then
      match cs with
      | '=' :: r => some ⟨.slashAssign, 2, r⟩
      | _ => some ⟨.slash, 1, cs⟩
    else if c == '%' then
      match cs with
      | '=' :: r => some ⟨.percentAssign, 2, r⟩
      | _ => some ⟨.percent, 1, cs⟩
    else if c == '&' then
      match cs with
      | '&' :: '=' :: r => some ⟨.ampAmpAssign, 3, r⟩
      | '&' :: r => some ⟨.ampAmp, 2, r⟩
      | '=' :: r => some ⟨.ampAssign, 2, r⟩
      | _ => some ⟨.amp, 1, cs⟩
    else if c == '|' then
      match cs with
      | '|' :: '=' :: r => some ⟨.pipePipeAssign, 3, r⟩
      | '|' :: r => some ⟨.pipePipe, 2, r⟩
      | '=' :: r => some ⟨.pipeAssign, 2, r⟩
      | _ => some ⟨.pipe, 1, cs⟩
    else if c == '^' then
      match cs with
      | '=' :: r => some ⟨.caretAssign, 2, r⟩
      | _ => some ⟨.caret, 1, cs⟩
    else if c == '?' then
      match cs with
      | '?' :: '=' :: r => some ⟨.questionAssign, 3, r⟩
      | '?' :: r => some ⟨.questionQuestion, 2, r⟩
      | '.' :: r =>
        if r.head?.any isDecimal then some ⟨.question, 1, cs⟩ else some ⟨.questionDot, 2, r⟩
      | _ => some ⟨.question, 1, cs⟩
    else none

/-- Reads the token at the front of a text that begins with no blank. -/
def tokenKind? (cs : Text) : Option (Piece TokenKind) :=
  match cs with
  | [] => some ⟨.eof, 0, []⟩
  | c :: rest =>
    if Unicode.isIdStart c || c == '\x5c' then wordToken? cs
    else if isDecimal c || (c == '.' && rest.head?.any isDecimal) then number? cs
    else if c == '\x22' || c == '\x27' then
      (stringPoints c (rest.length + 1) rest [] 1).map fun p =>
        ⟨.string (literalText p.value), p.bytes, p.rest⟩
    else if c == '#' then (word? rest).map fun p => ⟨.privateName p.value, p.bytes + 1, p.rest⟩
    else (punct? cs).map fun p => ⟨.punct p.value, p.bytes, p.rest⟩

/-- A token with the text that begins at it and the text behind it. -/
structure Located where
  token : Token
  here : Text
  rest : Text

/-- Skips blanks and comments from a position and reads the next token. -/
def nextToken (cs : Text) (pos : Nat) : Located :=
  match skipTrivia .code cs pos false with
  | none => ⟨⟨.bad, pos, pos, false⟩, cs, []⟩
  | some (here, start, newline) =>
    match tokenKind? here with
    | some p => ⟨⟨p.value, start, start + p.bytes, newline⟩, here, p.rest⟩
    | none => ⟨⟨.bad, start, start, newline⟩, here, []⟩

end PureLint.Scan
