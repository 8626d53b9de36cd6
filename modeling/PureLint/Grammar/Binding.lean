import PureLint.Grammar.Modifier

/-!
# Names that are bound

Property keys, decorators, destructuring patterns and the parameters of functions, with the type
written behind each.
-/

namespace PureLint.Grammar

open PureLint.Grammar.Parser

variable (self : Self)

/-- The type behind a colon. -/
def typeAscription : Parser Tree := do
  let start ← here
  expect .colon
  let type ← self .type
  finish .typeAscription start [type]

/-- The type behind a colon, if there is one and the dialect has types. -/
def typeAscriptionOpt : Parser (List Tree) :=
  optionally (do return (← isTypescript) && (← at_ .colon)) (typeAscription self)

def initializer : Parser Tree := do
  expect .assign
  withContext (fun c => { c with allowIn := true }) (self (.assignment true))

/-- A decorator. No link of it may be missing. -/
def decorator : Parser Tree := do
  let start ← here
  expect .at
  let e ← withContext (fun c => { c with inDecorator := true }) (self (.leftHandSide true))
  demand (e.label != .chainExpression)
  finish .decorator start [e]

def decorators : Parser (List Tree) :=
  many do
    if ← at_ .at then return some (← decorator self) else return none

/-- A key in brackets. The tree is that of the expression alone. -/
def computedKey : Parser Tree := do
  expect .bracketL
  let e ←
    withContext (fun c => { c with allowIn := true, inDecorator := false })
      (self (.assignment true))
  expect .bracketR
  return e

/-- The key of a property, and whether it is computed. Private names are keys in classes only. -/
def propertyKey (allowPrivate : Bool) : Parser (Tree × Bool) := do
  match (← peek).kind with
  | .word _ _ => return (← identifierName, false)
  | .string value => return (← leaf (.stringLiteral value), false)
  | .number value => return (← leaf (.numericLiteral value), false)
  | .bigInt value => return (← leaf (.bigIntLiteral value), false)
  | .privateName name =>
    if allowPrivate then return (← leaf (.privateIdentifier name), false) else fail
  | .punct .bracketL => return (← computedKey self, true)
  | _ => fail

/-- A pattern with the value it takes by default. -/
def bindingElement : Parser Tree := do
  let start ← here
  let pattern ← self .bindingPattern
  if ← at_ .assign then
    let value ← initializer self
    finish .assignmentPattern start [pattern, value]
  else return pattern

def bindingRest : Parser Tree := do
  let start ← here
  expect .ellipsis
  let pattern ← self .bindingPattern
  finish .bindingRest start [pattern]

def arrayPattern : Parser Tree := do
  let start ← here
  expect .bracketL
  let items ← many do
    if ← eat .bracketR then return none
    else if ← eat .comma then return some []
    else if ← at_ .ellipsis then
      let rest ← bindingRest self
      guard (← at_ .bracketR)
      return some [rest]
    else
      let item ← bindingElement self
      if !(← at_ .bracketR) then expect .comma
      return some [item]
  finish .arrayPattern start items.flatten

/-- A property of an object pattern. A name alone is both key and bound name. -/
def bindingProperty : Parser Tree := do
  let start ← here
  let t ← peek
  if isNameToken t && !(← nextIs fun n => n.isPunct .colon) then
    let name ← ofOption (wordOf? t)
    let nameSpan := t.span
    let bound ← bindingIdentifier
    let value ←
      if ← at_ .assign then
        let value ← initializer self
        finish .assignmentPattern start [bound, value]
      else pure bound
    finish .bindingProperty start [.node (.identifierName name) nameSpan [], value]
  else
    let (key, _) ← propertyKey self false
    expect .colon
    let value ← bindingElement self
    finish .bindingProperty start [key, value]

def objectPattern : Parser Tree := do
  let start ← here
  expect .braceL
  let items ← many do
    if ← eat .braceR then return none
    else if ← at_ .ellipsis then
      let rest ← bindingRest self
      guard (rest.children.all (·.label.isBindingIdentifier) && (← at_ .braceR))
      return some rest
    else
      let item ← bindingProperty self
      if !(← at_ .braceR) then expect .comma
      return some item
  finish .objectPattern start items

def bindingPattern : Parser Tree := do
  if ← at_ .bracketL then arrayPattern self
  else if ← at_ .braceL then objectPattern self
  else bindingIdentifier

/-! ## Parameters -/

inductive ParameterOwner where
  /-- A function, an arrow function, a method of an object or a signature. -/
  | function
  /-- A method of a class. -/
  | method
  /-- The constructor of a class, whose parameters can be properties. -/
  | constructor
deriving DecidableEq, Repr

/-- The modifiers that make a parameter of a constructor a property. -/
def parameterModifiers : List Keyword :=
  [.kwPublic, .kwPrivate, .kwProtected, .kwReadonly, .kwOverride]

/-- The decorators of a parameter, which only members of classes have and only where there are
types. -/
def parameterDecorators (owner : ParameterOwner) : Parser (List Tree) := do
  let ds ← decorators self
  demand (ds.isEmpty || ((← isTypescript) && owner != .function))
  return ds

def formalParameter (owner : ParameterOwner) (start : Nat) (decorators : List Tree) :
    Parser Tree := do
  let typescript ← isTypescript
  let mods ← modifiers false false
  allowModifiers (if typescript && owner == .constructor then parameterModifiers else []) mods
  let pattern ← self .bindingPattern
  demand (mods.isEmpty || pattern.label.isBindingIdentifier)
  let isOptional ← if typescript then eat .question else pure false
  let type ← typeAscriptionOpt self
  let value ← optionally (at_ .assign) (initializer self)
  demand (!isOptional || value.isEmpty)
  finish (.formalParameter (mods.any Keyword.isAccessibility) (mods.contains .kwReadonly)) start
    (decorators ++ pattern :: (type ++ value))

/-- A rest parameter, behind its decorators. Its span ends before its type. -/
def restParameter (start : Nat) (decorators : List Tree) : Parser Tree := do
  let restStart ← here
  expect .ellipsis
  let pattern ← self .bindingPattern
  let stop ← previousStop
  let type ← typeAscriptionOpt self
  return .node .formalParameterRest ⟨start, stop⟩
    (decorators ++ .node .bindingRest ⟨restStart, stop⟩ [pattern] :: type)

def thisParameter : Parser Tree := do
  let start ← here
  expectKeyword .kwThis
  let type ← typeAscriptionOpt self
  finish .thisParameter start type

/-- The parameters of a function: the `this` parameter, if there is one, and the node of the
others. -/
structure Parameters where
  thisParameter : List Tree
  others : Tree

/-- All parameters, in order. -/
def Parameters.trees (p : Parameters) : List Tree := p.thisParameter ++ [p.others]

def formalParameters (owner : ParameterOwner) : Parser Parameters := do
  let start ← here
  expect .parenL
  let thisParam ←
    if (← isTypescript) && (← atKeyword .kwThis) then do
      let p ← thisParameter self
      if !(← at_ .parenR) then expect .comma
      pure [p]
    else pure []
  let items ← many do
    if ← eat .parenR then return none
    let itemStart ← here
    let decorators ← parameterDecorators self owner
    if ← at_ .ellipsis then
      let rest ← restParameter self itemStart decorators
      guard (← at_ .parenR)
      return some rest
    else
      let item ← formalParameter self owner itemStart decorators
      if !(← at_ .parenR) then expect .comma
      return some item
  return ⟨thisParam, ← finish .formalParameters start items⟩

end PureLint.Grammar
