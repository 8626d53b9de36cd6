import PureLint.Grammar.Expressions

/-!
# Statements

Variables, blocks, conditions, loops, jumps and exceptions. Declarations of types and modules are
read elsewhere.
-/

namespace PureLint.Grammar

open PureLint.Grammar.Parser

variable (self : Self)

/-! ## Variables -/

/-- Whether `using` begins a declaration here; the flag allows it to declare the name `of`. -/
def atUsing (allowOf : Bool) : Parser Bool := do
  if ← atKeyword .kwUsing then
    nextOnLineIs fun t => isNameToken t && (allowOf || !t.isKeyword .kwOf)
  else return false

/-- Whether `await using` begins a declaration here. -/
def atAwaitUsing : Parser Bool := do
  if !(← atKeyword .kwAwait) then return false
  ahead do
    advance
    guard !(← onNewLine)
    atUsing true

/-- Whether a pattern binds a single name. -/
def bindsName (t : Tree) : Bool := t.label.isBindingIdentifier

def declarator : Parser Tree := do
  let start ← here
  let pattern ← self .bindingPattern
  let definite := (← isTypescript) && bindsName pattern && (← at_ .bang) && !(← onNewLine)
  if definite then advance
  let type ← typeAscriptionOpt self
  let value ← optionally (eat .assign) (self (.assignment true))
  demand (!definite || (!type.isEmpty && value.isEmpty))
  finish .variableDeclarator start (pattern :: (type ++ value))

def hasValue : Tree → Bool
  | .node .variableDeclarator _ (_ :: rest) => rest.any fun t => !t.label.isTypeAscription
  | _ => false

def declaresName (t : Tree) : Bool := (t.children.head?.map bindsName).getD false

/-- Whether a variable that is not set by a loop has the value it needs. -/
def valueGiven (kind : DeclarationKind) (t : Tree) : Bool :=
  hasValue t || (kind != .const && declaresName t)

def declarationKind : Keyword → DeclarationKind
  | .kwConst => .const
  | .kwLet => .letBinding
  | _ => .var

/-- Variables behind `var`, `let` or `const`, with the kind that the word declares. -/
def declaredVariables : Parser (DeclarationKind × List Tree) := do
  let word ← take
  let items ← commaSeparated (declarator self)
  return (declarationKind (word.keyword?.getD .kwVar), items)

/-- Notes a flaw if a variable that needs a value has none. Where things are only declared none is
needed. -/
def demandValues (kind : DeclarationKind) (items : List Tree) : Parser Unit := do
  demand ((← context).ambient || items.all (valueGiven kind))

def variableStatement (start : Nat) : Parser Tree := do
  let (kind, items) ← declaredVariables self
  demandValues kind items
  semicolon
  finish (.variableDeclaration kind) start items

/-- Names behind `using` or `await using`, which hold what is disposed of at the end of the
block. -/
def resources : Parser (DeclarationKind × List Tree) := do
  let isAwait ← eatKeyword .kwAwait
  expectKeyword .kwUsing
  let items ← commaSeparated (declarator self)
  demand (items.all declaresName)
  return (if isAwait then .awaitUsing else .using, items)

/-- A declaration of resources as a statement. Each has a value. -/
def usingStatement : Parser Tree := do
  let start ← here
  let (kind, items) ← resources self
  demand (items.all hasValue)
  semicolon
  finish (.variableDeclaration kind) start items

/-! ## Blocks, conditions and loops -/

def block : Parser Tree := do
  let start ← here
  let statements ← statementsInBraces self
  finish .blockStatement start statements

def parenthesizedHead : Parser Tree := do
  expect .parenL
  let e ← self .expression
  expect .parenR
  return e

def ifStatement : Parser Tree := do
  let start ← here
  expectKeyword .kwIf
  let test ← parenthesizedHead self
  let yes ← self (.statement false)
  let no ← optionally (eatKeyword .kwElse) (self (.statement false))
  finish .ifStatement start (test :: yes :: no)

/-- A loop that tests first. -/
def whileStatement : Parser Tree := do
  let start ← here
  expectKeyword .kwWhile
  let test ← parenthesizedHead self
  let body ← self (.statement false)
  finish .whileStatement start [test, body]

/-- A loop that tests last. A semicolon behind it belongs to it. -/
def doWhileStatement : Parser Tree := do
  let start ← here
  expectKeyword .kwDo
  let body ← self (.statement false)
  expectKeyword .kwWhile
  let test ← parenthesizedHead self
  let _ ← eat .semi
  finish .doWhileStatement start [body, test]

/-- The rest of a loop over the members or elements of an object, from `in` or `of` on. -/
def forEachRest (start : Nat) (isAwait : Bool) (left : Tree) : Parser Tree := do
  if ← eatKeyword .kwOf then
    let right ← self (.assignment true)
    expect .parenR
    let body ← self (.statement false)
    finish .forOfStatement start [left, right, body]
  else
    demand !isAwait
    expectKeyword .kwIn
    let right ← self .expression
    expect .parenR
    let body ← self (.statement false)
    finish .forInStatement start [left, right, body]

/-- The rest of a counting loop, from the first semicolon on. -/
def forRest (start : Nat) (isAwait : Bool) (init : List Tree) : Parser Tree := do
  demand !isAwait
  expect .semi
  let (test, update) ← withContext (fun c => { c with allowIn := true }) do
    let test ← optionally (do return !(← at_ .semi)) (self .expression)
    expect .semi
    let update ← optionally (do return !(← at_ .parenR)) (self .expression)
    return (test, update)
  expect .parenR
  let body ← self (.statement false)
  finish .forStatement start (init ++ test ++ update ++ [body])

/-- Whether `in` or `of` stands here. -/
def atForEach : Parser Bool := do return (← atKeyword .kwIn) || (← atKeyword .kwOf)

/-- Whether the head of a loop declares variables here. -/
def atForVariables : Parser Bool := do
  let t ← peek
  if t.isKeyword .kwVar || t.isKeyword .kwConst then return true
  if !t.isKeyword .kwLet || t.isEscaped then return false
  nextIs fun n => n.isPunct .bracketL || n.isPunct .braceL || (isWord n && !n.isKeyword .kwIn)

def forDeclaration (start : Nat) (isAwait : Bool)
    (declared : Parser (DeclarationKind × List Tree)) : Parser Tree := do
  let declStart ← here
  let (kind, items) ← withContext (fun c => { c with allowIn := false }) declared
  let decl ← finish (.variableDeclaration kind) declStart items
  if ← atForEach then
    demand (!(kind == .using || kind == .awaitUsing) || !(← atKeyword .kwIn))
    forEachRest self start isAwait decl
  else
    if kind == .const || kind == .letBinding || kind == .var then demandValues kind items
    forRest self start isAwait [decl]

/-- A loop whose head begins with an expression. The target of a loop over elements does not begin
with `let`, and is not the name `async`. -/
def forExpression (start : Nat) (isAwait : Bool) : Parser Tree := do
  let first ← peek
  let e ← withContext (fun c => { c with allowIn := false }) (self .expression)
  if ← atForEach then
    if ← atKeyword .kwOf then
      demand (!first.isKeyword .kwLet && (isAwait || e.name? != some "async".toList))
    let target ← assignmentTarget e
    forEachRest self start isAwait target
  else forRest self start isAwait [e]

def forStatement : Parser Tree := do
  let start ← here
  expectKeyword .kwFor
  let isAwait ← eatKeyword .kwAwait
  demand (!isAwait || (← context).inAsync)
  expect .parenL
  if ← at_ .semi then forRest self start isAwait []
  else if ← atForVariables then forDeclaration self start isAwait (declaredVariables self)
  else if (← atUsing false) || (← atAwaitUsing) then
    forDeclaration self start isAwait (resources self)
  else forExpression self start isAwait

/-! ## Jumps, switches and exceptions -/

/-- A jump, perhaps to a label. -/
def jumpStatement (word : Keyword) (label : Label) : Parser Tree := do
  let start ← here
  expectKeyword word
  let name ← optionally (do return (← atIdentifier) && !(← onNewLine)) do
    let nameStart ← here
    let name ← identifier
    finish (.labelIdentifier name) nameStart []
  semicolon
  finish label start name

def returnStatement : Parser Tree := do
  let start ← here
  demand (← context).inFunction
  expectKeyword .kwReturn
  let value ← optionally (do return !(← canEndHere))
    (withContext (fun c => { c with allowIn := true }) (self .expression))
  semicolon
  finish .returnStatement start value

/-- A throw. Its value begins on the same line. -/
def throwStatement : Parser Tree := do
  let start ← here
  expectKeyword .kwThrow
  demand !(← onNewLine)
  let value ← self .expression
  semicolon
  finish .throwStatement start [value]

def withStatement : Parser Tree := do
  let start ← here
  expectKeyword .kwWith
  let object ← parenthesizedHead self
  let body ← self (.statement false)
  finish .withStatement start [object, body]

def switchCase : Parser Tree := do
  let start ← here
  let test ←
    if ← eatKeyword .kwDefault then pure []
    else do
      expectKeyword .kwCase
      let e ← self .expression
      pure [e]
  expect .colon
  let statements ← many do
    if (← at_ .braceR) || (← atKeyword .kwCase) || (← atKeyword .kwDefault) then return none
    else return some (← self (.statement true))
  finish .switchCase start (test ++ statements)

def switchStatement : Parser Tree := do
  let start ← here
  expectKeyword .kwSwitch
  let value ← parenthesizedHead self
  expect .braceL
  let cases ← many do
    if ← eat .braceR then return none else return some (← switchCase self)
  finish .switchStatement start (value :: cases)

def catchClause : Parser Tree := do
  let start ← here
  expectKeyword .kwCatch
  let param ← optionally (eat .parenL) do
    let paramStart ← here
    let pattern ← self .bindingPattern
    let type ← typeAscriptionOpt self
    let t ← finish .catchParameter paramStart (pattern :: type)
    expect .parenR
    return t
  let body ← self .block
  finish .catchClause start (param ++ [body])

/-- A guarded block, with a handler or a final block or both. -/
def tryStatement : Parser Tree := do
  let start ← here
  expectKeyword .kwTry
  let body ← self .block
  let handler ← optionally (atKeyword .kwCatch) (catchClause self)
  let finalizer ← optionally (eatKeyword .kwFinally) (self .block)
  demand (!handler.isEmpty || !finalizer.isEmpty)
  finish .tryStatement start (body :: (handler ++ finalizer))

/-- An expression used as a statement, or a label where the expression is a name before a colon. -/
def expressionOrLabeled : Parser Tree := do
  let start ← here
  let e ← self .expression
  match e.label with
  | .identifierReference name =>
    if ← eat .colon then
      let body ← self (.statement false)
      finish .labeledStatement start [.node (.labelIdentifier name) e.span [], body]
    else
      semicolon
      finish .expressionStatement start [e]
  | _ =>
    semicolon
    finish .expressionStatement start [e]

/-- A statement that begins with `let`. It declares variables unless what follows shows that `let`
is a name: an operator, a member or a call (behind which the statement just ends), a semicolon, or,
where no declaration may stand, anything but a bracket. -/
def letStatement (allowDeclarations : Bool) : Parser Tree := do
  let start ← here
  let next ← lookahead do
    advance
    return (← peek, (← assignmentHere?).isSome || (← operatorHere?).any (·.joint == .binary))
  match next with
  | none => fail
  | some (next, isOperator) =>
    if isOperator then expressionOrLabeled self
    else if next.isPunct .dot || next.isPunct .parenL then
      let e ← self .expression
      finish .expressionStatement start [e]
    else if (!allowDeclarations && !next.isPunct .bracketL) || next.isPunct .semi then
      let e ← identifierReference
      semicolon
      finish .expressionStatement start [e]
    else
      demand allowDeclarations
      variableStatement self start

end PureLint.Grammar
