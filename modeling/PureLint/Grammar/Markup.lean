import PureLint.Grammar.Types

/-!
# Markup

Elements and fragments written in angle brackets inside expressions. Between tags the source is
text, in which only a tag or a brace has a meaning, so the text is read from right behind the token
before.
-/

namespace PureLint.Grammar

open PureLint.Grammar.Parser

variable (self : Self)

/-- Reads the word here with the hyphens and letters that directly follow it, and returns it as it
is written. With a hyphen it is no keyword. -/
def markupWord : Parser Text := do
  let t ← peek
  guard (isWord t)
  let (word, behind) ← ofOption (Text.cutAt? (t.stop - t.start) (← textHere))
  match behind with
  | '-' :: _ =>
    let (name, rest) := Scan.markupName behind
    rescan fun _ => some ⟨word ++ name, Text.byteLength (word ++ name), rest⟩
  | _ =>
    advance
    return word

/-- Reads a part of a name with dots, in which no hyphen stands. -/
def markupPart : Parser Text := do
  let name ← markupWord
  demand !(name.contains '-')
  return name

def markupIdentifier : Parser Tree := do
  let start ← here
  let name ← markupWord
  finish (.jsxIdentifier name) start []

/-- Whether a tag of that name is a component, which is an identifier of the program. -/
def isComponentName : Text → Bool
  | [] => false
  | c :: cs => !('a' ≤ c && c ≤ 'z') && !(c :: cs).contains '-'

/-- The leftmost part of a tag's name, as the program sees it. -/
def tagRoot (span : Span) (name : Text) : Tree :=
  if name == "this".toList then .node .thisExpression span []
  else .node (.identifierReference name) span []

def tagName : Parser Tree := do
  let start ← here
  let name ← markupWord
  let span : Span := ⟨start, ← previousStop⟩
  if ← eat .colon then
    let inner ← markupIdentifier
    finish .jsxNamespacedName start [.node (.jsxIdentifier name) span [], inner]
  else if ← at_ .dot then
    demand !(name.contains '-')
    grow
      (fun object => do
        if ← eat .dot then
          let partStart ← here
          let property ← finish (.jsxIdentifier (← markupPart)) partStart []
          return some (← finish .jsxMemberExpression start [object, property])
        else return none)
      (tagRoot span name)
  else if name == "this".toList || isComponentName name then return tagRoot span name
  else return .node (.jsxIdentifier name) span []

/-- The parts of a tag's name, by which the closing tag is found to match. -/
def tagNameParts : Tree → List Text
  | .node .jsxMemberExpression _ [object, .node (.jsxIdentifier name) _ _] =>
    tagNameParts object ++ [name]
  | .node .jsxNamespacedName _
      [.node (.jsxIdentifier space) _ _, .node (.jsxIdentifier name) _ _] =>
    [space, [':'], name]
  | .node (.jsxIdentifier name) _ _ => [name]
  | .node (.identifierReference name) _ _ => [name]
  | .node .thisExpression _ _ => ["this".toList]
  | _ => []

/-- An expression in braces; an empty one stands for nothing. -/
def expressionContainer (allowEmpty : Bool) : Parser Tree := do
  let start ← here
  expect .braceL
  if ← at_ .braceR then
    guard allowEmpty
    let stop ← here
    let inner := Tree.node .jsxEmptyExpression ⟨start + 1, stop⟩ []
    expect .braceR
    finish .jsxExpressionContainer start [inner]
  else if allowEmpty && (← eat .ellipsis) then
    let e ← self .expression
    expect .braceR
    finish .jsxSpreadChild start [e]
  else
    let e ← self .expression
    expect .braceR
    finish .jsxExpressionContainer start [e]

/-- A quoted attribute value right behind its equals sign, which knows no escapes. -/
def markupString : Parser Tree := do
  let start ← here
  let value ← rescan fun
    | quote :: cs =>
      (Scan.markupString quote cs 1).map fun (bytes, rest) =>
        ⟨cs.take (cs.length - rest.length - 1), bytes, rest⟩
    | [] => none
  finish (.stringLiteral value) start []

/-- Whether a quote stands right behind the token before. -/
def atAdjacentQuote : Parser Bool := do
  match ← textBehind with
  | c :: _ => return c == '\x22' || c == '\x27'
  | [] => return false

/-- The value of an attribute. A string that does not directly follow the equals sign is read as in
the program. -/
def attributeValue : Parser Tree := do
  if ← at_ .braceL then expressionContainer self false
  else if ← at_ .lt then self .markup
  else if ← atAdjacentQuote then markupString
  else stringLiteral

def tagAttribute : Parser Tree := do
  let start ← here
  if ← eat .braceL then
    expect .ellipsis
    let e ← self .expression
    expect .braceR
    finish .jsxSpreadAttribute start [e]
  else
    let first ← markupIdentifier
    let name ←
      if ← eat .colon then do
        let inner ← markupIdentifier
        finish .jsxNamespacedName start [first, inner]
      else pure first
    let value ← optionally (eat .assign) (attributeValue self)
    finish .jsxAttribute start (name :: value)

/-- What stands between tags, up to a closing tag. -/
def markupChildren : Parser (List Tree) :=
  many do
    match ← textBehind with
    | '<' :: '/' :: _ => return none
    | '<' :: cs =>
      if ← ahead do
          expect .lt
          at_ .slash then
        return none
      else if cs.isEmpty then fail
      else return some (← self .markup)
    | '\x7b' :: _ => return some (← expressionContainer self true)
    | _ =>
      let start ← previousStop
      rescanBehind fun cs => (Scan.markupText cs 0).map fun (bytes, rest) => ⟨(), bytes, rest⟩
      return some (← finish .jsxText start [])

/-- An element or a fragment. -/
def markup : Parser Tree := do
  let start ← here
  expect .lt
  if ← eat .gt then
    let opening ← finish .jsxOpeningFragment start []
    let children ← markupChildren self
    let closeStart ← here
    expect .lt
    expect .slash
    expect .gt
    let closing ← finish .jsxClosingFragment closeStart []
    finish .jsxFragment start (opening :: children ++ [closing])
  else
    let name ← tagName
    let arguments ← if ← isTypescript then typeArgumentsOpt self else pure []
    let attributes ← many do
      if (← at_ .gt) || (← at_ .slash) then return none else return some (← tagAttribute self)
    let selfClosing ← eat .slash
    expect .gt
    let opening ← finish .jsxOpeningElement start (name :: (arguments ++ attributes))
    if selfClosing then finish .jsxElement start [opening]
    else
      let children ← markupChildren self
      let closeStart ← here
      expect .lt
      expect .slash
      let closingName ← tagName
      expect .gt
      demand (tagNameParts name == tagNameParts closingName)
      let closing ← finish .jsxClosingElement closeStart [closingName]
      finish .jsxElement start (opening :: children ++ [closing])

end PureLint.Grammar
