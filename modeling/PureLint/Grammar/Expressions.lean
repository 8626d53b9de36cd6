import PureLint.Grammar.Classes
import PureLint.Grammar.Markup

/-!
# Expressions

From the tightest to the loosest form: literals and names, members and calls, operators before and
behind one operand, operators between operands by how tightly they bind, then conditions, arrow
functions and assignments, and commas.
-/

namespace PureLint.Grammar

open PureLint.Grammar.Parser

variable (self : Self)

/-! ## Literals -/

/-- A regular expression, which begins where a slash was read as an operator. -/
def regexLiteral : Parser Tree := do
  let start ← here
  let written ← rescan fun
    | '/' :: cs =>
      (Scan.regex? cs).map fun p =>
        ⟨'/' :: cs.take (cs.length - p.rest.length), p.bytes + 1, p.rest⟩
    | _ => none
  finish (.regExpLiteral written) start []

/-- An expression without commas, in which `in` is an operator. -/
def operandExpression : Parser Tree :=
  withContext (fun c => { c with allowIn := true }) (self (.assignment true))

/-- Adds to what was seen in literals. -/
def note (f : LiteralNotes → LiteralNotes) : Parser Unit :=
  fun _ s => (some (), { s with notes := f s.notes })

def notes : Parser LiteralNotes := fun _ s => (some s.notes, s)

def spreadElement : Parser Tree := do
  let start ← here
  expect .ellipsis
  let e ← operandExpression self
  if ← at_ .comma then note fun n => { n with followedSpreads := start :: n.followedSpreads }
  finish .spreadElement start [e]

def arrayLiteral : Parser Tree := do
  let start ← here
  expect .bracketL
  let items ← many do
    if ← eat .bracketR then return none
    else if ← at_ .comma then
      return some (← leaf .elision)
    else
      let item ← if ← at_ .ellipsis then spreadElement self else operandExpression self
      if !(← at_ .bracketR) then expect .comma
      return some item
  finish .arrayExpression start items

/-- Forgets the noted shorthand properties that became part of a target. -/
def forgetDefaults (target : Tree) : Parser Unit :=
  note fun n =>
    if n.defaults.isEmpty then n
    else
      let settled := shorthandStarts target
      { n with defaults := n.defaults.filter fun p => !settled.contains p }

/-- A method of an object literal, from its parameters on. It has a body. -/
def objectMethod (start : Nat) (role : MethodRole) (isAsync isGenerator : Bool) (key : Tree) :
    Parser Tree := do
  let (f, _) ← methodFunction self .function role true isAsync isGenerator
  let kind : PropertyKind :=
    match role with
    | .plain => .init
    | .getter => .get
    | .setter => .set
  finish (.objectProperty kind) start [key, f]

/-- A property of an object literal that is no method, behind its key: a value, or nothing where the
key is a name that is used. Only a pattern may give such a name a default. -/
def objectField (start : Nat) (token : Token) (key : Tree) : Parser Tree := do
  if ← eat .colon then
    let value ← operandExpression self
    finish (.objectProperty .init) start [key, value]
  else
    guard (leavesFree (← context) token)
    let name ← ofOption (nameOf? token)
    let value := Tree.node (.identifierReference name) token.span []
    if ← at_ .assign then
      let default ← initializer self
      note fun n => { n with defaults := start :: n.defaults }
      let value ← finish (.assignmentExpression true) start [value, default]
      finish (.objectProperty .init) start [key, value]
    else finish (.objectProperty .init) start [key, value]

/-- A member of an object literal. Of all modifiers it may only have `async`, and only before a
method. -/
def objectMember : Parser Tree := do
  let start ← here
  if ← at_ .ellipsis then spreadElement self
  else
    let mods ← modifiers false false
    let isAsync := mods.contains .kwAsync
    if ← atAccessor then
      let role := if ← atKeyword .kwGet then MethodRole.getter else .setter
      advance
      allowModifiers [] mods
      let (key, _) ← propertyKey self false
      objectMethod self start role isAsync false key
    else
      let isGenerator ← eat .star
      let token ← peek
      let (key, _) ← propertyKey self false
      if isGenerator || (← at_ .parenL) || (← at_ .lt) then
        allowModifiers [.kwAsync] mods
        objectMethod self start .plain isAsync isGenerator key
      else
        allowModifiers [] mods
        objectField self start token key

def objectLiteral : Parser Tree := do
  let start ← here
  expect .braceL
  let items ← commaList (objectMember self) .braceR
  finish .objectExpression start items

def parenthesized : Parser Tree := do
  let start ← here
  expect .parenL
  let e ← withContext (fun c => { c with allowIn := true }) (self .expression)
  expect .parenR
  finish .parenthesizedExpression start [e]

def decoratedExpression : Parser Tree := do
  let start ← here
  let decorators ← decorators self
  let _ ← modifiers false false
  classTail self start decorators

/-- An expression that holds together by itself. -/
def primary : Parser Tree := do
  let t ← peek
  match t.kind with
  | .number value => leaf (.numericLiteral value)
  | .bigInt value => leaf (.bigIntLiteral value)
  | .string value => leaf (.stringLiteral value)
  | .punct .parenL => parenthesized self
  | .punct .bracketL => arrayLiteral self
  | .punct .braceL => objectLiteral self
  | .punct .backtick => templateLiteral self false
  | .punct .slash => regexLiteral
  | .punct .slashAssign => regexLiteral
  | .punct .at => decoratedExpression self
  | .word (some .kwThis) _ => leaf .thisExpression
  | .word (some .kwNull) _ => leaf .nullLiteral
  | .word (some .kwTrue) _ => leaf (.booleanLiteral true)
  | .word (some .kwFalse) _ => leaf (.booleanLiteral false)
  | .word (some .kwFunction) _ => functionExpression self
  | .word (some .kwClass) _ => classExpression self
  | .word (some .kwAsync) _ =>
    if ← nextOnLineIs fun n => n.isKeyword .kwFunction then functionExpression self
    else identifierReference
  | _ => identifierReference

/-! ## Members and calls -/

def callArguments : Parser (List Tree) := do
  expect .parenL
  withContext (fun c => { c with inDecorator := false })
    (commaList (do if ← at_ .ellipsis then spreadElement self else operandExpression self) .parenR)

/-- Whether a token joins two operands, `in` apart. -/
def isBinaryOperator (t : Token) : Bool :=
  match t.kind with
  | .punct p =>
    [.questionQuestion, .pipePipe, .ampAmp, .pipe, .caret, .amp, .eqEq, .notEq, .eqEqEq, .notEqEq,
      .lt, .gt, .le, .shl, .plus, .minus, .star, .slash, .percent, .starStar].contains p
  | .word (some k) _ => k == .kwInstanceof || k == .kwAs || k == .kwSatisfies
  | _ => false

/-- Whether a token begins an expression. -/
def startsExpression (t : Token) : Bool :=
  match t.kind with
  | .number _ | .bigInt _ | .string _ | .privateName _ | .word none _ => true
  | .word (some k) _ =>
    !k.isReserved ||
      [.kwThis, .kwSuper, .kwNull, .kwTrue, .kwFalse, .kwFunction, .kwClass, .kwNew, .kwDelete,
        .kwTypeof, .kwVoid, .kwImport].contains k
  | .punct p =>
    [.parenL, .bracketL, .braceL, .backtick, .slash, .slashAssign, .plus, .minus, .tilde, .bang,
      .plusPlus, .minusMinus, .lt, .at].contains p
  | _ => false

/-- Whether type arguments in an expression may end before a token. Where `in` is an operator they
do not end before it. -/
def followsTypeArguments (c : Context) (t : Token) : Bool :=
  if t.isPunct .parenL || t.isPunct .backtick then true
  else if t.isPunct .lt || t.isPunct .gt || t.isPunct .plus || t.isPunct .minus then false
  else if t.isKeyword .kwIn then t.newline || !c.allowIn
  else t.newline || isBinaryOperator t || !startsExpression t

/-- Whether an angle bracket right before a text is only the beginning of an operator. -/
def continuesOperator : Text → Bool
  | c :: _ => c == '>' || c == '='
  | [] => false

/-- Type arguments in an expression; a comparison is none. -/
def expressionTypeArguments? : Parser (Option Tree) := do
  if (← isTypescript) && (← atOpenAngle) then
    attempt do
      let arguments ← typeArguments self
      guard (!continuesOperator (← textBehind) && followsTypeArguments (← context) (← peek))
      return arguments
  else return none

def dotMember (start : Nat) (object : Tree) : Parser Tree := do
  match (← peek).kind with
  | .privateName _ => do
    let field ← privateIdentifier
    finish .privateMember start [object, field]
  | _ => do
    let property ← identifierName
    finish .staticMember start [object, property]

def bracketMember (start : Nat) (object : Tree) : Parser Tree := do
  expect .bracketL
  let index ← withContext (fun c => { c with allowIn := true }) (self .expression)
  expect .bracketR
  finish .computedMember start [object, index]

/-- What stands behind `?.`. -/
def optionalMember (start : Nat) (object : Tree) : Parser Tree := do
  expect .questionDot
  if ← at_ .parenL then
    let arguments ← callArguments self
    finish .callExpression start (object :: arguments)
  else if ← at_ .bracketL then bracketMember self start object
  else if (← isTypescript) && (← atOpenAngle) then
    let types ← typeArguments self
    let arguments ← callArguments self
    finish .callExpression start (object :: types :: arguments)
  else dotMember start object

/-- One more member, call or assertion behind an expression. The flag of the result says whether a
link of the chain may be missing. -/
def chainStep (start : Nat) (allowCalls : Bool) : Tree × Bool → Parser (Option (Tree × Bool))
  | (e, isOptional) => do
    let t ← peek
    if t.isPunct .questionDot then
      guard allowCalls
      return some (← optionalMember self start e, true)
    else if t.isPunct .dot then
      advance
      return some (← dotMember start e, isOptional)
    else if t.isPunct .bracketL then
      if (← context).inDecorator then return none
      return some (← bracketMember self start e, isOptional)
    else if t.isPunct .bang && !t.newline && (← isTypescript) then
      advance
      return some (← finish .nonNullExpression start [e], isOptional)
    else if t.isPunct .backtick then
      guard !isOptional
      let quasi ← templateLiteral self true
      return some (← finish .taggedTemplate start [e, quasi], false)
    else if t.isPunct .parenL then
      if !allowCalls then return none
      let arguments ← callArguments self
      return some (← finish .callExpression start (e :: arguments), isOptional)
    else
      match ← expressionTypeArguments? self with
      | none => return none
      | some types =>
        if ← at_ .backtick then
          guard !isOptional
          let quasi ← templateLiteral self true
          return some (← finish .taggedTemplate start [e, types, quasi], false)
        else if allowCalls && (← at_ .parenL) then
          let arguments ← callArguments self
          return some (← finish .callExpression start (e :: types :: arguments), isOptional)
        else return some (← finish .instantiationExpression start [e, types], isOptional)

/-- Wraps a whole chain, one link of which may be missing. -/
def wrapChain : Tree → Tree
  | .node .instantiationExpression span [e, types] =>
    .node .instantiationExpression span [.node .chainExpression e.span [e], types]
  | e =>
    match e.label with
    | .callExpression | .staticMember | .computedMember | .privateMember | .nonNullExpression =>
      .node .chainExpression e.span [e]
    | _ => e

/-- Reads a keyword as the name of itself. -/
def keywordName : Parser Tree := do
  let t ← take
  return .node (.identifierName ((wordOf? t).getD [])) t.span []

def newExpression : Parser Tree := do
  let start ← here
  let word ← keywordName
  if ← eat .dot then
    guard (← atKeyword .kwTarget)
    let property ← keywordName
    finish .metaProperty start [word, property]
  else
    let parts ←
      match ← self (.leftHandSide false) with
      | .node .instantiationExpression _ [e, types] => pure [e, types]
      | e => do
        demand (e.label != .importExpression)
        pure [e]
    let arguments ← if ← at_ .parenL then callArguments self else pure []
    finish .newExpression start (parts ++ arguments)

/-- `import` in an expression: a call, or `import.meta`. -/
def importExpression : Parser Tree := do
  let start ← here
  let word ← keywordName
  let metaName ←
    if ← eat .dot then
      if ← atKeyword .kwMeta then do
        let property ← keywordName
        pure (some property)
      else do
        guard ((← atKeyword .kwDefer) || (← atKeyword .kwSource))
        advance
        pure none
    else pure none
  match metaName with
  | some property => finish .metaProperty start [word, property]
  | none =>
    expect .parenL
    let source ← operandExpression self
    let options ←
      if (← eat .comma) && !(← at_ .parenR) then do
        let e ← operandExpression self
        let _ ← eat .comma
        pure [e]
      else pure []
    expect .parenR
    finish .importExpression start (source :: options)

/-- `super`, which has to be called or have a member. -/
def superExpression : Parser Tree := do
  let e ← leaf .super
  demand ((← at_ .parenL) || (← at_ .dot) || (← at_ .bracketL))
  return e

def leftHandSide (allowCalls : Bool) : Parser Tree := do
  let start ← here
  let first ←
    match (← peek).keyword? with
    | some .kwNew => newExpression self
    | some .kwImport => importExpression self
    | some .kwSuper => superExpression
    | _ => primary self
  let (e, isOptional) ← grow (chainStep self start allowCalls) (first, false)
  return if isOptional then wrapChain e else e

/-! ## Operators -/

def simpleTarget (e : Tree) : Parser Tree := ofOption (simpleTarget? e)

def unaryOperator? (t : Token) : Option UnaryOperator :=
  match t.kind with
  | .punct .plus => some .plus
  | .punct .minus => some .minus
  | .punct .bang => some .not
  | .punct .tilde => some .bitNot
  | .word (some .kwTypeof) _ => some .typeof
  | .word (some .kwVoid) _ => some .void
  | .word (some .kwDelete) _ => some .delete
  | _ => none

def isUpdateOperator (t : Token) : Bool := t.isPunct .plusPlus || t.isPunct .minusMinus

def angleAssertion : Parser Tree := do
  let start ← here
  expect .lt
  let type ← self .type
  expect .gt
  let e ← self .unary
  finish .typeAssertion start [type, e]

def isWordOrLiteral (t : Token) : Bool :=
  match t.kind with
  | .word _ _ | .string _ | .number _ | .bigInt _ => true
  | _ => false

/-- Whether the word here waits or yields: where the context says so, or where an operand can only
begin on the same line. -/
def atSuspending (word : Keyword) (inContext : Bool) : Parser Bool := do
  if !(← atKeyword word) then return false
  if inContext then return true else nextOnLineIs isWordOrLiteral

/-- An operand with the operators before and behind it. No operator before it may stand to the left
of a power. -/
def unary : Parser Tree := do
  let t ← peek
  match unaryOperator? t with
  | some op =>
    advance
    let e ← self .unary
    demand !(← at_ .starStar)
    finish (.unaryExpression op) t.start [e]
  | none =>
    let isAsync := (← context).inAsync
    if ← atSuspending .kwAwait isAsync then
      demand isAsync
      advance
      let e ← withContext (fun c => { c with inAsync := true }) (self .unary)
      demand !(← at_ .starStar)
      finish .awaitExpression t.start [e]
    else if isUpdateOperator t then
      advance
      let target ← simpleTarget (← self .unary)
      finish .updateExpression t.start [target]
    else if t.isPunct .lt && (← dialect).jsx then self .markup
    else if t.isPunct .lt && (← isTypescript) then angleAssertion self
    else
      let e ← self (.leftHandSide true)
      let next ← peek
      if isUpdateOperator next && !next.newline then
        let target ← simpleTarget e
        advance
        finish .updateExpression t.start [target]
      else return e

/-- What an operator between operands makes of them. -/
inductive Joint where
  | binary
  | logical (nullish : Bool)
  | asType
  | satisfiesType
deriving DecidableEq

/-- An operator between operands: how tightly it binds, what it makes, and how many characters it
takes. -/
structure Operator where
  level : Nat
  joint : Joint
  length : Nat

def relationalLevel : Nat := 8

/-- The level of powers, which group to the right. -/
def powerLevel : Nat := 12

/-- An operator that begins with a closing angle bracket, unless it assigns. -/
def angleOperator? : Text → Option Operator
  | '>' :: '>' :: '>' :: '=' :: _ => none
  | '>' :: '>' :: '>' :: _ => some ⟨9, .binary, 3⟩
  | '>' :: '>' :: '=' :: _ => none
  | '>' :: '>' :: _ => some ⟨9, .binary, 2⟩
  | '>' :: '=' :: _ => some ⟨relationalLevel, .binary, 2⟩
  | '>' :: _ => some ⟨relationalLevel, .binary, 1⟩
  | _ => none

/-- The operator that a punctuator is between operands. -/
def punctOperator? : Punct → Option (Nat × Joint)
  | .questionQuestion => some (1, .logical true)
  | .pipePipe => some (2, .logical false)
  | .ampAmp => some (3, .logical false)
  | .pipe => some (4, .binary)
  | .caret => some (5, .binary)
  | .amp => some (6, .binary)
  | .eqEq | .notEq | .eqEqEq | .notEqEq => some (7, .binary)
  | .lt | .le => some (relationalLevel, .binary)
  | .shl => some (9, .binary)
  | .plus | .minus => some (10, .binary)
  | .star | .slash | .percent => some (11, .binary)
  | .starStar => some (powerLevel, .binary)
  | _ => none

/-- The operator between operands that stands here. -/
def operatorHere? : Parser (Option Operator) := do
  let t ← peek
  let width := t.stop - t.start
  match t.kind with
  | .punct .gt => return angleOperator? (← textHere)
  | .punct p => return (punctOperator? p).map fun (level, joint) => ⟨level, joint, width⟩
  | .word (some .kwInstanceof) _ => return some ⟨relationalLevel, .binary, width⟩
  | .word (some .kwIn) _ =>
    return if (← context).allowIn then some ⟨relationalLevel, .binary, width⟩ else none
  | .word (some .kwAs) _ =>
    return if (← isTypescript) && !t.newline then some ⟨relationalLevel, .asType, width⟩ else none
  | .word (some .kwSatisfies) _ =>
    if (← isTypescript) && !t.newline then return some ⟨relationalLevel, .satisfiesType, width⟩
    else return none
  | _ => return none

/-- Reads an operator of that many ASCII characters. -/
def skipOperator (length : Nat) : Parser Unit :=
  rescan fun cs => some ⟨(), length, cs.drop length⟩

/-- Whether an expression is joined by another logical operator than `??`. -/
def isPlainLogical (e : Tree) : Bool := e.label == .logicalExpression false

def isLogical (e : Tree) : Bool := isPlainLogical e || e.label == .logicalExpression true

/-- Whether the operands of `??` are joined by another logical operator. An operand that begins with
a parenthesis counts as standing in parentheses. -/
def mixesLogical (left right : Tree) (leftInParens rightInParens : Bool) : Bool :=
  if isLogical right && !rightInParens then isPlainLogical right
  else isPlainLogical left && !leftInParens

/-- One more operator and its right operand. -/
def binaryStep (start level : Nat) (leftInParens : Bool) (left : Tree) : Parser (Option Tree) := do
  match ← operatorHere? with
  | none => return none
  | some op =>
    if op.level < level then return none
    demand !(← peek).isEscaped
    skipOperator op.length
    match op.joint with
    | .asType =>
      let type ← self .type
      return some (← finish .asExpression start [left, type])
    | .satisfiesType =>
      let type ← self .type
      return some (← finish .satisfiesExpression start [left, type])
    | .binary =>
      let right ← self (.binary (if op.level == powerLevel then op.level else op.level + 1))
      return some (← finish .binaryExpression start [left, right])
    | .logical nullish =>
      let rightInParens ← at_ .parenL
      let right ← self (.binary (op.level + 1))
      demand !(nullish && mixesLogical left right leftInParens rightInParens)
      return some (← finish (.logicalExpression nullish) start [left, right])

/-- Whether an object has a private name. The object is not the answer to another such question. -/
def privateIn : Parser Tree := do
  let start ← here
  let name ← privateIdentifier
  guard (← context).allowIn
  expectKeyword .kwIn
  let right ← self (.binary (relationalLevel + 1))
  guard (right.label != .privateInExpression)
  finish .privateInExpression start [name, right]

/-- Operands joined by operators of at least that level. -/
def binary (level : Nat) : Parser Tree := do
  let start ← here
  let inParens ← at_ .parenL
  let first ←
    match (← peek).kind with
    | .privateName _ => privateIn self
    | _ => self .unary
  grow (binaryStep self start level inParens) first

/-! ## Assignments and commas -/

/-- An operator of assignment: whether it is the plain one, and how many characters it takes. -/
def assignmentOperator? (t : Token) (text : Text) : Option (Bool × Nat) :=
  match t.kind with
  | .punct .assign => some (true, 1)
  | .punct .gt =>
    match text with
    | '>' :: '>' :: '>' :: '=' :: _ => some (false, 4)
    | '>' :: '>' :: '=' :: _ => some (false, 3)
    | _ => none
  | .punct p =>
    if [.plusAssign, .minusAssign, .starAssign, .starStarAssign, .slashAssign, .percentAssign,
        .shlAssign, .ampAssign, .ampAmpAssign, .pipeAssign, .pipePipeAssign, .caretAssign,
        .questionAssign].contains p then
      some (false, t.stop - t.start)
    else none
  | _ => none

/-- The operator of assignment that stands here. -/
def assignmentHere? : Parser (Option (Bool × Nat)) := do
  return assignmentOperator? (← peek) (← textHere)

/-- The target of an assignment. -/
def assignmentTarget (e : Tree) : Parser Tree := do
  let target ← ofOption (assignmentTarget? (← notes) e)
  forgetDefaults target
  return target

/-- Whether `yield` stands alone before a token. -/
def endsYield (t : Token) : Bool :=
  t.newline ||
    match t.kind with
    | .eof => true
    | .punct p => [.parenR, .bracketR, .braceR, .comma, .semi, .colon].contains p
    | .word (some k) _ => k == .kwIn
    | _ => false

def yieldExpression : Parser Tree := do
  let start ← here
  demand (← context).inGenerator
  expectKeyword .kwYield
  if (← at_ .star) && !(← onNewLine) then
    advance
    let e ← self (.assignment true)
    finish .yieldExpression start [e]
  else if endsYield (← peek) then finish .yieldExpression start []
  else
    let e ← self (.assignment true)
    finish .yieldExpression start [e]

/-- A condition, or an assignment, or the expression itself. -/
def assignmentRest (start : Nat) (allowReturnType : Bool) (left : Tree) : Parser Tree := do
  match ← assignmentHere? with
  | some (plain, length) =>
    let target ← assignmentTarget left
    skipOperator length
    let right ← self (.assignment allowReturnType)
    finish (.assignmentExpression plain) start [target, right]
  | none =>
    if ← eat .question then
      let yes ← withContext (fun c => { c with allowIn := true }) (self (.assignment false))
      expect .colon
      let no ← self (.assignment allowReturnType)
      finish .conditionalExpression start [left, yes, no]
    else return left

/-- An arrow function, if one begins here. -/
def arrow? (allowReturnType : Bool) : Parser (Option Tree) := do
  match ← bareArrow? self allowReturnType with
  | some f => return some f
  | none =>
    let t ← peek
    if t.isPunct .parenL || t.isPunct .lt || t.isKeyword .kwAsync then
      parenthesizedArrow? self allowReturnType
    else return none

/-- An expression without commas. -/
def assignment (allowReturnType : Bool) : Parser Tree :=
  withContext (fun c => { c with inDecorator := false, allowConditional := true }) do
    let start ← here
    if ← atSuspending .kwYield (← context).inGenerator then yieldExpression self
    else
      match ← arrow? self allowReturnType with
      | some f => return f
      | none =>
        let left ← self (.binary 1)
        assignmentRest self start allowReturnType left

def expression : Parser Tree := do
  let start ← here
  let items ← commaSeparated (self (.assignment true))
  match items with
  | [e] => return e
  | _ => finish .sequenceExpression start items

end PureLint.Grammar
