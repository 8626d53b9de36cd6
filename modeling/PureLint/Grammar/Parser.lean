import PureLint.Grammar.Target
import PureLint.Token.Scan
import PureLint.Tree.Basic

/-!
# Parsers

A parser reads trees from a stream of tokens. It knows the dialect of the file and the context it
stands in, both of which it cannot change for others, and a state: the current token, where the
token before ended, and notes that survive a failed attempt. `attempt` goes back to where it began
when its parser fails; `lookahead` always goes back. A parser fails where it cannot go on. What the
grammar forbids although it can be read is a flaw (`report`, `demand`): reading goes on, so no other
way of reading is tried, but the program is no program. Repetition (`many`) is bounded by the
characters that are left, because each round reads at least one token.
-/

namespace PureLint

/-- Which language a file is written in. -/
structure Dialect where
  typescript : Bool
  jsx : Bool
  /-- Files that only declare. -/
  ambient : Bool
deriving DecidableEq, Repr

namespace Grammar

/-- What surrounds the place that is being read. -/
structure Context where
  /-- Whether `in` is an operator. -/
  allowIn : Bool := true
  inGenerator : Bool := false
  inAsync : Bool := false
  inFunction : Bool := false
  /-- Declarations need no values here. -/
  ambient : Bool := false
  /-- Whether `extends` begins a conditional type. -/
  allowConditional : Bool := true
  /-- An expression after `@`, where a bracket begins the next member. -/
  inDecorator : Bool := false

/-- The dialect and the context. -/
structure Env where
  dialect : Dialect
  context : Context

structure State where
  /-- The current token, with the text from it on and the text behind it. -/
  current : Scan.Located
  /-- The end of the token before. -/
  previousStop : Nat
  /-- The text from the end of the token before. -/
  behind : Text
  notes : LiteralNotes
  /-- Starts of parentheses that turned out not to begin an arrow function. -/
  notArrow : List Nat
  /-- Whether something was read that the grammar forbids. -/
  flawed : Bool

namespace State

/-- Goes back to an earlier state but keeps what was learned about parentheses. -/
def back (earlier later : State) : State := { earlier with notArrow := later.notArrow }

/-- Goes on behind `rest`, which begins at byte `stop`. -/
def jump (s : State) (stop : Nat) (rest : Text) : State :=
  { s with previousStop := stop, behind := rest, current := Scan.nextToken rest stop }

end State

/-- A parser: a result, or none, and the state after it. -/
def Parser (α : Type) : Type := Env → State → Option α × State

namespace Parser

instance : Monad Parser where
  pure a := fun _ s => (some a, s)
  bind p f := fun e s =>
    match p e s with
    | (some a, s') => f a e s'
    | (none, s') => (none, s')

def fail {α : Type} : Parser α := fun _ s => (none, s)

def guard (b : Bool) : Parser Unit := if b then pure () else fail

/-- Notes a flaw and goes on. -/
def report : Parser Unit := fun _ s => (some (), { s with flawed := true })

/-- Notes a flaw unless the condition holds. -/
def demand (b : Bool) : Parser Unit := if b then pure () else report

/-- Whether a flaw has been noted. -/
def isFlawed : Parser Bool := fun _ s => (some s.flawed, s)

def ofOption {α : Type} : Option α → Parser α
  | some a => pure a
  | none => fail

/-- Runs a parser; where it fails nothing is read. -/
def attempt {α : Type} (p : Parser α) : Parser (Option α) := fun e s =>
  match p e s with
  | (some a, s') => (some (some a), s')
  | (none, s') => (some none, s.back s')

/-- Runs a parser and reads nothing. -/
def lookahead {α : Type} (p : Parser α) : Parser (Option α) := fun e s =>
  let r := p e s
  (some r.1, s.back r.2)

def ahead (p : Parser Bool) : Parser Bool := do
  return (← lookahead p).getD false

def dialect : Parser Dialect := fun e s => (some e.dialect, s)

def context : Parser Context := fun e s => (some e.context, s)

def withContext {α : Type} (f : Context → Context) (p : Parser α) : Parser α := fun e s =>
  p { e with context := f e.context } s

def isTypescript : Parser Bool := do return (← dialect).typescript

def peek : Parser Token := fun _ s => (some s.current.token, s)

/-- The first byte of the current token. -/
def here : Parser Nat := fun _ s => (some s.current.token.start, s)

/-- The end of the token before. -/
def previousStop : Parser Nat := fun _ s => (some s.previousStop, s)

/-- Reads the current token, which must be one, whatever it means. -/
def advanceName : Parser Unit := fun _ s =>
  match s.current.token.kind with
  | .bad => (none, s)
  | .eof => (none, s)
  | _ => (some (), s.jump s.current.token.stop s.current.rest)

/-- Reads the current token, which must be one. A keyword that is read as such has no escapes. -/
def advance : Parser Unit := do
  let t ← peek
  demand (t.keyword?.isNone || !t.isEscaped)
  advanceName

def take : Parser Token := do
  let t ← peek
  advance
  return t

/-- Reads a piece that begins at the current token, and goes on behind it. -/
def rescan {α : Type} (f : Text → Option (Scan.Piece α)) : Parser α := fun _ s =>
  match f s.current.here with
  | some p => (some p.value, s.jump (s.current.token.start + p.bytes) p.rest)
  | none => (none, s)

/-- Reads a piece that begins right behind the token before, and goes on behind it. -/
def rescanBehind {α : Type} (f : Text → Option (Scan.Piece α)) : Parser α := fun _ s =>
  match f s.behind with
  | some p => (some p.value, s.jump (s.previousStop + p.bytes) p.rest)
  | none => (none, s)

/-- The text from the current token on. -/
def textHere : Parser Text := fun _ s => (some s.current.here, s)

/-- The text right behind the token before. -/
def textBehind : Parser Text := fun _ s => (some s.behind, s)

def at_ (p : Punct) : Parser Bool := do return (← peek).isPunct p

def atKeyword (k : Keyword) : Parser Bool := do return (← peek).isKeyword k

def onNewLine : Parser Bool := do return (← peek).newline

/-- Reads a punctuator if it is there. -/
def eat (p : Punct) : Parser Bool := do
  if ← at_ p then
    advance
    return true
  else return false

def eatKeyword (k : Keyword) : Parser Bool := do
  if ← atKeyword k then
    advance
    return true
  else return false

def expect (p : Punct) : Parser Unit := do guard (← eat p)

def expectKeyword (k : Keyword) : Parser Unit := do guard (← eatKeyword k)

/-- The tree of a node that begins at `start` and ends with the last token read. -/
def finish (label : Label) (start : Nat) (children : List Tree) : Parser Tree := do
  return .node label ⟨start, ← previousStop⟩ children

/-- A leaf made of the current token, which is read. -/
def leaf (label : Label) : Parser Tree := do
  let t ← take
  return .node label t.span []

/-- Repeats a parser while it gives results, at most `n` times. -/
def repeatUpTo {α : Type} (p : Parser (Option α)) : Nat → Parser (List α)
  | 0 => fail
  | n + 1 => do
    match ← p with
    | some a => return a :: (← repeatUpTo p n)
    | none => return []

/-- How often something that reads can still be repeated. -/
def roundsLeft : Parser Nat := fun _ s => (some (s.behind.length + 2), s)

/-- Repeats a parser while it gives results. -/
def many {α : Type} (p : Parser (Option α)) : Parser (List α) := do
  repeatUpTo p (← roundsLeft)

/-- Grows a value round after round, at most `n` times, until a round gives nothing. -/
def growUpTo {α : Type} (step : α → Parser (Option α)) : Nat → α → Parser α
  | 0, _ => fail
  | n + 1, a => do
    match ← step a with
    | some b => growUpTo step n b
    | none => return a

/-- Grows a value round after round until a round gives nothing. -/
def grow {α : Type} (step : α → Parser (Option α)) (a : α) : Parser α := do
  growUpTo step (← roundsLeft) a

/-- Items with commas between them up to a closing punctuator, which is read. A comma may stand
before it. -/
def commaList {α : Type} (item : Parser α) (close : Punct) : Parser (List α) :=
  many do
    if ← eat close then return none
    let a ← item
    if !(← at_ close) then expect .comma
    return some a

/-- Items with commas between them; at least one, and no comma at the end. -/
def commaSeparated {α : Type} (item : Parser α) : Parser (List α) := do
  let first ← item
  let rest ← many do
    if ← eat .comma then return some (← item) else return none
  return first :: rest

/-- A parser whose result may be left out, written only if the condition holds. -/
def optionally (condition : Parser Bool) (p : Parser Tree) : Parser (List Tree) := do
  if ← condition then return [← p] else return []

/-- Whether a statement may end before the current token without a semicolon. -/
def canEndHere : Parser Bool := do
  let t ← peek
  return t.newline || t.isPunct .braceR || t.isPunct .semi || t.kind == .eof

/-- Reads the end of a statement: a semicolon, or nothing where a line or block ends. -/
def semicolon : Parser Unit := do
  guard (← canEndHere)
  let _ ← eat .semi

/-- Whether the token after the current one satisfies a test. -/
def nextIs (p : Token → Bool) : Parser Bool :=
  ahead do
    advance
    return p (← peek)

/-- Whether the token after the current one stands on the same line and satisfies a test. -/
def nextOnLineIs (p : Token → Bool) : Parser Bool := nextIs fun t => !t.newline && p t

/-- The name of a word that can be an identifier somewhere. -/
def nameOf? (t : Token) : Option Text :=
  match t.kind with
  | .word none name => some name
  | .word (some k) name => if k.isReserved then none else some name
  | _ => none

/-- Whether a token is a word that can be an identifier somewhere. -/
def isNameToken (t : Token) : Bool := (nameOf? t).isSome

/-- Whether a token is a word that can be an identifier everywhere. -/
def isPlainName (t : Token) : Bool := isNameToken t && !t.keyword?.any Keyword.isSuspending

/-- Whether a context leaves a word free to be an identifier. -/
def leavesFree (c : Context) (t : Token) : Bool :=
  !(c.inAsync && t.isKeyword .kwAwait) && !(c.inGenerator && t.isKeyword .kwYield)

/-- Whether the current token can be an identifier. -/
def atIdentifier : Parser Bool := do return isNameToken (← peek)

def identifierIn (c : Context) : Parser Text := do
  let t ← peek
  let name ← ofOption (nameOf? t)
  demand (leavesFree c t)
  advanceName
  return name

def identifier : Parser Text := do identifierIn (← context)

/-- Reads an identifier that declares a name. -/
def bindingIdentifier : Parser Tree := do
  let start ← here
  let name ← identifier
  finish (.bindingIdentifier name) start []

/-- Reads an identifier that uses a name. -/
def identifierReference : Parser Tree := do
  let start ← here
  let name ← identifier
  finish (.identifierReference name) start []

def wordOf? (t : Token) : Option Text :=
  match t.kind with
  | .word _ name => some name
  | _ => none

def isWord (t : Token) : Bool := (wordOf? t).isSome

/-- Reads any word, keywords included. -/
def identifierName : Parser Tree := do
  let start ← here
  let name ← ofOption (wordOf? (← peek))
  advanceName
  finish (.identifierName name) start []

def privateIdentifier : Parser Tree := do
  match (← peek).kind with
  | .privateName name => leaf (.privateIdentifier name)
  | _ => fail

def stringLiteral : Parser Tree := do
  match (← peek).kind with
  | .string value => leaf (.stringLiteral value)
  | _ => fail

end Parser

/-- The parts of the grammar that refer to each other. -/
inductive Goal where
  /-- An expression in which commas may stand. -/
  | expression
  /-- An expression without commas; the flag allows an arrow function in it to have a return
  type. -/
  | assignment (allowReturnType : Bool)
  /-- Operands joined by operators that bind at least that tightly. -/
  | binary (level : Nat)
  | unary
  /-- An expression without operators; the flag allows calls. -/
  | leftHandSide (allowCalls : Bool)
  /-- A statement; the flag allows declarations. -/
  | statement (allowDeclarations : Bool)
  | block
  | bindingPattern
  /-- A type, without its colon. -/
  | type
  /-- The operand of a type operator. -/
  | typeOperand
  /-- A type without operators before it and brackets behind it. -/
  | simpleType
  /-- An object literal. -/
  | objectLiteral
  | markup
deriving DecidableEq, Repr

/-- A parser for each part of the grammar. -/
abbrev Self := Goal → Parser Tree

end Grammar

end PureLint
