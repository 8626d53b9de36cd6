import PureLint.Grammar.Types

/-!
# Functions

Bodies, function declarations and expressions, methods and arrow functions. A function without a
body is allowed where types are: it only declares.
-/

namespace PureLint.Grammar

open PureLint.Grammar.Parser

variable (self : Self)

/-! ## Bodies -/

/-- Statements up to a closing brace, which is read. -/
def statementsInBraces : Parser (List Tree) := do
  expect .braceL
  many do
    if ← eat .braceR then return none else return some (← self (.statement true))

/-- Turns the leading statements that are nothing but a string into directives. -/
def markDirectives : List Tree → List Tree
  | .node .expressionStatement span [.node (.stringLiteral value) inner cs] :: rest =>
    .node .directive span [.node (.stringLiteral value) inner cs] :: markDirectives rest
  | statements => statements

def functionBody : Parser Tree := do
  let start ← here
  let statements ←
    withContext (fun c =>
      { c with inFunction := true, allowConditional := true, inDecorator := false })
    (statementsInBraces self)
  finish .functionBody start (markDirectives statements)

/-! ## Functions with the word `function`, and methods -/

/-- The context inside a function. -/
def functionContext (isAsync isGenerator : Bool) (c : Context) : Context :=
  { c with allowIn := true, inAsync := isAsync, inGenerator := isGenerator, inDecorator := false }

/-- The parts of a function behind its name. -/
structure FunctionParts where
  typeParameters : List Tree
  parameters : Parameters
  returnType : List Tree
  body : List Tree

/-- The trees of a function's parts, in order. -/
def FunctionParts.trees (p : FunctionParts) : List Tree :=
  p.typeParameters ++ p.parameters.trees ++ p.returnType ++ p.body

/-- Type parameters, parameters, return type and body. Where there are types, a body may be missing
unless it is needed. -/
def functionParts (owner : ParameterOwner) (needsBody isAsync isGenerator : Bool) :
    Parser FunctionParts := do
  let parts ← withContext (functionContext isAsync isGenerator) do
    let typeParams ← typeParametersOpt self
    let params ← formalParameters self owner
    let result ← returnTypeOpt self
    let body ← optionally (at_ .braceL) (functionBody self)
    return (⟨typeParams, params, result, body⟩ : FunctionParts)
  if parts.body.isEmpty then
    guard ((← isTypescript) && !needsBody)
    demand !isGenerator
    semicolon
  return parts

/-- A function behind the word `function`; `start` is where it begins, which may be a modifier. -/
def functionTail (start : Nat) (isAsync needsName isDeclared : Bool) : Parser Tree := do
  expectKeyword .kwFunction
  let isGenerator ← eat .star
  let name ← optionally atIdentifier bindingIdentifier
  demand (!needsName || !name.isEmpty)
  let parts ← functionParts self .function false isAsync isGenerator
  demand (!isDeclared || parts.body.isEmpty)
  finish (.function isAsync) start (name ++ parts.trees)

/-- A function expression, which has a body. Its name is read as in the body. -/
def functionExpression : Parser Tree := do
  let start ← here
  let isAsync ← eatKeyword .kwAsync
  expectKeyword .kwFunction
  let isGenerator ← eat .star
  let name ← withContext (fun c => { c with inAsync := isAsync, inGenerator := isGenerator })
    (optionally atIdentifier bindingIdentifier)
  let parts ← functionParts self .function true isAsync isGenerator
  finish (.function isAsync) start (name ++ parts.trees)

inductive MethodRole where
  | plain | getter | setter
deriving DecidableEq

/-- Whether a getter takes nothing and a setter one value, which where there are types has no
default. -/
def accessorShapeOk (typescript : Bool) (role : MethodRole) (parts : FunctionParts) : Bool :=
  let params := parts.parameters.others.children
  match role with
  | .plain => true
  | .getter => params.isEmpty
  | .setter =>
    match params with
    | [.node (.formalParameter ..) _ children] =>
      !typescript || !(children.dropWhile (·.label.isDecorator)).tail.any fun t =>
        !t.label.isTypeAscription
    | _ => false

/-- The function of a method, from its parameters on, with its parts. -/
def methodFunction (owner : ParameterOwner) (role : MethodRole)
    (needsBody isAsync isGenerator : Bool) :
    Parser (Tree × FunctionParts) := do
  let start ← here
  let parts ← functionParts self owner needsBody isAsync isGenerator
  demand (accessorShapeOk (← isTypescript) role parts)
  return (← finish (.function isAsync) start parts.trees, parts)

/-! ## Arrow functions -/

def arrowTail (start : Nat) (isAsync allowReturnType : Bool) (head : List Tree) : Parser Tree := do
  demand !(← onNewLine)
  expect .arrow
  withContext (fun c => { c with inAsync := isAsync, inGenerator := false }) do
    if ← at_ .braceL then
      let body ← functionBody self
      finish (.arrowFunction isAsync false) start (head ++ [body])
    else
      let e ← self (.assignment allowReturnType)
      let body := Tree.node .functionBody e.span [.node .expressionStatement e.span [e]]
      finish (.arrowFunction isAsync true) start (head ++ [body])

/-- What the tokens ahead say about an arrow function. -/
inductive ArrowHint where
  | yes | no | maybe
deriving DecidableEq

/-- What the tokens behind an opening parenthesis say. -/
def parenArrowHint : Parser ArrowHint := do
  let typescript ← isTypescript
  let t ← peek
  if t.isPunct .parenR then
    advance
    if (← at_ .arrow) || (← at_ .braceL) then return .yes
    if typescript && (← at_ .colon) then return .maybe
    return .no
  else if t.isPunct .bracketL || t.isPunct .braceL then return .maybe
  else if t.isPunct .ellipsis then return .yes
  else
    if t.keyword?.any (fun k => k.isModifier && k != .kwAsync) && (← nextIs isNameToken) then
      return if ← nextIs fun n => n.isKeyword .kwAs then .no else .yes
    if !isNameToken t && !t.isKeyword .kwThis then return .no
    advance
    if ← at_ .colon then return .yes
    if ← eat .question then
      if (← at_ .colon) || (← at_ .comma) || (← at_ .assign) || (← at_ .parenR) then return .yes
      return .no
    if (← at_ .comma) || (← at_ .assign) || (← at_ .parenR) then return .maybe
    return .no

/-- What the tokens behind an opening angle bracket say. Where markup may stand, only a comma, a
bound or a default tells type parameters from a tag. -/
def angleArrowHint : Parser ArrowHint := do
  let d ← dialect
  if !d.typescript then return .no
  let _ ← eatKeyword .kwConst
  if !isNameToken (← peek) then return .no
  if d.jsx then
    advance
    if (← at_ .comma) || (← at_ .assign) then return .yes
    if ← eatKeyword .kwExtends then
      if (← at_ .assign) || (← at_ .gt) || (← at_ .slash) then return .no
      return .yes
    return .no
  return .maybe

/-- Whether an arrow function with parentheses begins here. -/
def arrowHint : Parser ArrowHint := do
  let hint ← lookahead do
    if ← eatKeyword .kwAsync then guard !(← onNewLine)
    if ← eat .parenL then parenArrowHint
    else if ← eat .lt then angleArrowHint
    else return .no
  return hint.getD .no

/-- What stands before the arrow of an arrow function with parentheses, the word `async` included.
It has no `this` parameter. -/
def arrowHead : Parser (Bool × List Tree × Bool) := do
  let isAsync ← eatKeyword .kwAsync
  let (head, hasResult) ← withContext (fun c => { c with inAsync := c.inAsync || isAsync }) do
    let typeParams ← typeParametersOpt self
    let params ← formalParameters self .function
    demand params.thisParameter.isEmpty
    let result ← returnTypeOpt self
    return (typeParams ++ params.trees ++ result, !result.isEmpty)
  guard (← at_ .arrow)
  return (isAsync, head, hasResult)

/-- An arrow function whose parameters stand in parentheses. -/
def parenthesizedArrow : Parser Tree := do
  let start ← here
  let (isAsync, head, _) ← arrowHead self
  arrowTail self start isAsync true head

/-- An arrow function whose parameters stand in parentheses. Where return types are not allowed, one
is taken only if a colon follows the whole function. -/
def doubtfulArrow (allowReturnType : Bool) : Parser Tree := do
  let start ← here
  let (isAsync, head, hasResult) ← arrowHead self
  let f ← arrowTail self start isAsync allowReturnType head
  guard (allowReturnType || !hasResult || (← at_ .colon))
  return f

/-- Notes that no arrow function begins at a position. -/
def noteNotArrow (pos : Nat) : Parser Unit :=
  fun _ s => (some (), { s with notArrow := pos :: s.notArrow })

/-- Whether it is known that no arrow function begins at a position. -/
def knownNotArrow (pos : Nat) : Parser Bool := fun _ s => (some (s.notArrow.contains pos), s)

def parenthesizedArrow? (allowReturnType : Bool) : Parser (Option Tree) := do
  match ← arrowHint with
  | .no => return none
  | .yes => return some (← parenthesizedArrow self)
  | .maybe =>
    let start ← here
    if ← knownNotArrow start then return none
    match ← attempt (doubtfulArrow self allowReturnType) with
    | some f => return some f
    | none =>
      noteNotArrow start
      return none

/-- A parameter written without parentheses. -/
def bareParameter : Parser Tree := do
  let name ← bindingIdentifier
  return .node .formalParameters name.span [.node (.formalParameter false false) name.span [name]]

/-- An arrow function with one parameter and no parentheses, if there is one. -/
def bareArrow? (allowReturnType : Bool) : Parser (Option Tree) := do
  let start ← here
  if (← atKeyword .kwAsync) && (← ahead do
      advance
      guard (isNameToken (← peek) && !(← onNewLine))
      advanceName
      at_ .arrow) then
    advance
    let param ← withContext (fun c => { c with inAsync := true }) bareParameter
    return some (← arrowTail self start true allowReturnType [param])
  else if (← atIdentifier) && (← nextIs fun t => t.isPunct .arrow) then
    let param ← bareParameter
    return some (← arrowTail self start false allowReturnType [param])
  else return none

end PureLint.Grammar
