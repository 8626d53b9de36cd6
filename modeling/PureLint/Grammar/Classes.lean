import PureLint.Grammar.Functions

/-!
# Classes

Class declarations and expressions with their members: fields, methods, accessors, index signatures
and static blocks. A member is read the same way in every dialect; which modifiers it may have
depends on what kind of member it turns out to be.
-/

namespace PureLint.Grammar

open PureLint.Grammar.Parser

variable (self : Self)

/-! ## Keys -/

/-- The name of a key that is not computed. -/
def plainKeyName? (key : Tree) (computed : Bool) : Option Text :=
  if computed then none
  else
    match key.label with
    | .identifierName name | .stringLiteral name => some name
    | _ => none

def isConstructorKey (key : Tree) (computed : Bool) : Bool :=
  plainKeyName? key computed == some "constructor".toList

/-- The key of a member. No private name is that of the constructor, and where there are types none
has another visibility. -/
def memberKey (mods : List Keyword) : Parser (Tree × Bool) := do
  let (key, computed) ← propertyKey self true
  match key.label with
  | .privateIdentifier name =>
    demand (name != "constructor".toList && !((← isTypescript) && mods.any Keyword.isAccessibility))
  | _ => pure ()
  return (key, computed)

/-- Notes a flaw if a static member that is not only declared has the name `prototype`. -/
def demandNotPrototype (mods : List Keyword) (key : Tree) (computed : Bool) : Parser Unit := do
  demand (!mods.contains .kwStatic || (← context).ambient ||
    plainKeyName? key computed != some "prototype".toList)

/-! ## Members -/

/-- A static block. In it `await` is no name, and no statement returns. -/
def staticBlock (start : Nat) : Parser Tree := do
  expectKeyword .kwStatic
  let statements ← withContext
    (fun c =>
      { c with inAsync := true, inGenerator := false, inFunction := false, inDecorator := false })
    (statementsInBraces self)
  finish .staticBlock start statements

/-- The modifiers of accessors and methods that say nothing about how they run. -/
def methodModifiers : List Keyword :=
  [.kwPublic, .kwPrivate, .kwProtected, .kwStatic, .kwAbstract, .kwOverride]

def accessorMember (start : Nat) (decorators : List Tree) (mods : List Keyword) (isSetter : Bool) :
    Parser Tree := do
  let (key, computed) ← memberKey self mods
  demandNotPrototype mods key computed
  demand (mods.contains .kwStatic || !isConstructorKey key computed)
  let role := if isSetter then MethodRole.setter else .getter
  let (f, parts) ← methodFunction self .method role false (mods.contains .kwAsync) false
  demand (!mods.contains .kwAbstract || parts.body.isEmpty)
  allowModifiers methodModifiers mods
  finish (.methodDefinition (if isSetter then .set else .get)) start (decorators ++ [key, f])

/-- Whether the constructor stands here: its name as a word, or as a string before its
parameters. -/
def atConstructor : Parser Bool := do
  match (← peek).kind with
  | .word (some .kwConstructor) _ => return true
  | .string value =>
    if value == "constructor".toList then nextIs fun t => t.isPunct .parenL else return false
  | _ => return false

/-- The constructor. It has neither decorators nor type parameters, return type or `this`
parameter. -/
def constructorMember (start : Nat) (decorators : List Tree) (mods : List Keyword) :
    Parser Tree := do
  let (key, _) ← propertyKey self false
  let (f, parts) ← methodFunction self .constructor .plain false (mods.contains .kwAsync) false
  demand (decorators.isEmpty && parts.typeParameters.isEmpty && parts.returnType.isEmpty)
  demand parts.parameters.thisParameter.isEmpty
  allowModifiers [.kwPublic, .kwPrivate, .kwProtected] mods
  finish (.methodDefinition .constructor) start (decorators ++ [key, f])

def methodMember (start : Nat) (decorators : List Tree) (mods : List Keyword) (isGenerator : Bool)
    (key : Tree) (computed : Bool) : Parser Tree := do
  let (f, parts) ← methodFunction self .method .plain false (mods.contains .kwAsync) isGenerator
  demand (!mods.contains .kwAbstract || parts.body.isEmpty)
  demand (!isGenerator || mods.contains .kwStatic || !isConstructorKey key computed)
  allowModifiers (.kwAsync :: methodModifiers) mods
  finish (.methodDefinition .method) start (decorators ++ [key, f])

def fieldModifiers : List Keyword := .kwReadonly :: .kwDeclare :: methodModifiers

/-- A field, from its type on. Its value may hold commas. -/
def fieldMember (start : Nat) (decorators : List Tree) (mods : List Keyword) (key : Tree)
    (computed : Bool) :
    Parser Tree := do
  let type ← typeAscriptionOpt self
  let value ← optionally (eat .assign)
    (withContext (fun c => { c with allowIn := true, inAsync := false, inGenerator := false })
      (self .expression))
  semicolon
  demand (!isConstructorKey key computed && !(mods.contains .kwAbstract && !value.isEmpty))
  allowModifiers fieldModifiers mods
  finish (.propertyDefinition computed (mods.contains .kwReadonly)) start
    (decorators ++ key :: (type ++ value))

/-- A field that is read and written through accessors, from its type on. -/
def accessorField (start : Nat) (decorators : List Tree) (mods : List Keyword) (key : Tree)
    (computed : Bool) :
    Parser Tree := do
  let type ← typeAscriptionOpt self
  let value ← optionally (eat .assign) (self (.assignment true))
  semicolon
  demand (!isConstructorKey key computed && !(mods.contains .kwAbstract && !value.isEmpty))
  allowModifiers (.kwAccessor :: methodModifiers) mods
  finish .accessorProperty start (decorators ++ key :: (type ++ value))

def fieldOrMethod (start : Nat) (decorators : List Tree) (mods : List Keyword) : Parser Tree := do
  let isGenerator ← eat .star
  let (key, computed) ← memberKey self mods
  demandNotPrototype mods key computed
  let isOptional ← eat .question
  if isGenerator || (← at_ .parenL) || (← at_ .lt) then
    methodMember self start decorators mods isGenerator key computed
  else
    let isDefinite ← eat .bang
    demand !(isOptional && (isDefinite || mods.contains .kwAccessor))
    if mods.contains .kwAccessor then accessorField self start decorators mods key computed
    else fieldMember self start decorators mods key computed

def classMember : Parser Tree := do
  let start ← here
  let decorators ← decorators self
  let mods ← modifiers true true
  if (← atKeyword .kwStatic) && (← nextIs fun t => t.isPunct .braceL) then
    demand (decorators.isEmpty && mods.isEmpty)
    staticBlock self start
  else if ← atAccessor then
    let isSetter ← atKeyword .kwSet
    advance
    accessorMember self start decorators mods isSetter
  else if !mods.contains .kwStatic && (← atConstructor) then
    constructorMember self start decorators mods
  else if (← isTypescript) && (← atIndexSignature) then
    demand decorators.isEmpty
    indexSignature self start mods
  else
    withContext (fun c => { c with ambient := c.ambient || mods.contains .kwDeclare })
      (fieldOrMethod self start decorators mods)

/-- The body of a class. -/
def classBody : Parser Tree := do
  let start ← here
  expect .braceL
  let members ← many do
    let _ ← many do
      if ← eat .semi then return some () else return none
    if ← eat .braceR then return none else return some (← classMember self)
  finish .classBody start members

/-! ## Heads -/

def classImplements : Parser Tree := do
  let start ← here
  let name ← typeName
  let arguments ← typeArgumentsOpt self
  finish .classImplements start (name :: arguments)

/-- The class that a class extends, and the type arguments given to it. -/
def superClass : Parser (List Tree) := do
  match ← self (.leftHandSide true) with
  | .node .instantiationExpression _ [e, arguments] => return [e, arguments]
  | e => return e :: (← typeArgumentsOpt self)

/-- What a class extends and implements, each at most once and in this order. -/
def classHeritage : Parser (List Tree) := do
  let base ← if ← eatKeyword .kwExtends then superClass self else pure []
  let implemented ←
    if ← eatKeyword .kwImplements then commaSeparated (classImplements self) else pure []
  return base ++ implemented

/-- A class from the word `class` on; `start` is where its decorators or modifiers begin. A class
may always lack a name. -/
def classTail (start : Nat) (decorators : List Tree) : Parser Tree := do
  expectKeyword .kwClass
  let name ←
    optionally (do return (← atIdentifier) && !(← atKeyword .kwImplements)) bindingIdentifier
  let typeParams ← typeParametersOpt self
  let heritage ← classHeritage self
  let body ← classBody self
  finish .classDefinition start (decorators ++ name ++ typeParams ++ heritage ++ [body])

def classExpression : Parser Tree := do
  let start ← here
  let decorators ← decorators self
  classTail self start decorators

end PureLint.Grammar
