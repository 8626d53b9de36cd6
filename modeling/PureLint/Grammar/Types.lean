import PureLint.Grammar.Binding
import PureLint.Grammar.Template

/-!
# Types

Types from the loosest to the tightest form: function types and conditional types, unions,
intersections, operators such as `keyof`, then array and access brackets behind a simple type.
Members of interfaces and of object types are read here too.
-/

namespace PureLint.Grammar

open PureLint.Grammar.Parser

variable (self : Self)

/-! ## Names, arguments and parameters of types -/

/-- An opening angle bracket, also the first of two that were read as one token. -/
def openAngle : Parser Unit :=
  rescan fun
    | '<' :: rest => some ⟨(), 1, rest⟩
    | _ => none

def atOpenAngle : Parser Bool := do
  let t ← peek
  return t.isPunct .lt || t.isPunct .shl

/-- The arguments of a generic type or function; at least one. -/
def typeArguments : Parser Tree := do
  let start ← here
  openAngle
  let types ← commaList (self .type) .gt
  demand !types.isEmpty
  finish .typeArguments start types

def typeArgumentsOnLine : Parser (List Tree) :=
  optionally (do return (← atOpenAngle) && !(← onNewLine)) (typeArguments self)

def typeArgumentsOpt : Parser (List Tree) := optionally (at_ .lt) (typeArguments self)

def typeParameter : Parser Tree := do
  let start ← here
  let mods ← modifiers true false
  allowModifiers [.kwConst, .kwIn, .kwOut] mods
  let name ← bindingIdentifier
  let bound ← optionally (eatKeyword .kwExtends) (self .type)
  let default ← optionally (eat .assign) (self .type)
  finish .typeParameter start (name :: (bound ++ default))

/-- The type parameters of a declaration; at least one. -/
def typeParameters : Parser Tree := do
  let start ← here
  openAngle
  let items ← commaList (typeParameter self) .gt
  demand !items.isEmpty
  finish .typeParameters start items

def typeParametersOpt : Parser (List Tree) :=
  optionally (do return (← isTypescript) && (← at_ .lt)) (typeParameters self)

/-- A name with dots; `first` is its leftmost part. -/
def qualifiedName (start : Nat) (first : Tree) : Parser Tree :=
  grow
    (fun left => do
      if ← eat .dot then
        let right ← identifierName
        return some (← finish .qualifiedName start [left, right])
      else return none)
    first

/-- The leftmost part of the name of a type: `this`, or any other word. -/
def typeNameRoot : Parser Tree := do
  if ← atKeyword .kwThis then leaf .thisExpression
  else
    let start ← here
    let name ← ofOption (wordOf? (← peek))
    advanceName
    finish (.identifierReference name) start []

def typeName : Parser Tree := do
  let start ← here
  let first ← typeNameRoot
  qualifiedName start first

def typeReference : Parser Tree := do
  let start ← here
  let name ← typeName
  let arguments ← typeArgumentsOnLine self
  finish .typeReference start (name :: arguments)

/-! ## Return types -/

/-- Whether `name is` stands here, on one line. -/
def atPredicate : Parser Bool := do
  return isPlainName (← peek) && (← nextOnLineIs fun t => t.isKeyword .kwIs)

/-- The type behind `is`. -/
def predicateType : Parser Tree := do
  let start ← here
  let type ← self .type
  finish .typeAscription start [type]

/-- A type, or a statement about a parameter. -/
def typeOrPredicate : Parser Tree := do
  if ← atPredicate then
    let start ← here
    let name ← identifierName
    expectKeyword .kwIs
    let type ← predicateType self
    finish .typePredicate start [name, type]
  else self .type

/-- The return type behind a colon or an arrow. -/
def returnType (mark : Punct) : Parser Tree := do
  let start ← here
  expect mark
  let type ← typeOrPredicate self
  finish .typeAscription start [type]

def returnTypeOpt : Parser (List Tree) :=
  optionally (do return (← isTypescript) && (← at_ .colon)) (returnType self .colon)

/-! ## Members -/

/-- What may stand between the members of a type: a comma or a semicolon, or nothing. -/
def memberEnd : Parser Unit := do
  if ← eat .comma then return ()
  let _ ← eat .semi

/-- Type parameters, parameters and return type of a signature. -/
def signature : Parser (List Tree) := do
  let typeParams ← typeParametersOpt self
  let params ← formalParameters self .function
  let result ← returnTypeOpt self
  return typeParams ++ params.trees ++ result

/-- What `new` constructs: a signature without a `this` parameter. -/
def constructedSignature : Parser (List Tree) := do
  let typeParams ← typeParametersOpt self
  let params ← formalParameters self .function
  demand params.thisParameter.isEmpty
  let result ← returnTypeOpt self
  return typeParams ++ params.trees ++ result

def atIndexSignature : Parser Bool :=
  ahead do
    expect .bracketL
    let t ← peek
    if t.isPunct .ellipsis || t.isPunct .bracketR then return true
    if t.keyword?.any Keyword.isModifier then
      advance
      if isPlainName (← peek) then return true
    else
      guard (isPlainName t)
      advance
    if (← at_ .colon) || (← at_ .comma) then return true
    expect .question
    return (← at_ .colon) || (← at_ .comma) || (← at_ .bracketR)

/-- An index signature, behind its modifiers. -/
def indexSignature (start : Nat) (mods : List Keyword) : Parser Tree := do
  allowModifiers [.kwReadonly, .kwStatic] mods
  expect .bracketL
  let nameStart ← here
  let _ ← identifierName
  let keyType ← typeAscription self
  let name ← finish .indexSignatureName nameStart [keyType]
  expect .bracketR
  let type ← typeAscription self
  memberEnd
  finish (.indexSignature (mods.contains .kwReadonly) (mods.contains .kwStatic)) start [name, type]

/-- An accessor of a type, from its key on. What is set has no return type. -/
def accessorSignature (start : Nat) (isSetter : Bool) : Parser Tree := do
  let (key, _) ← propertyKey self false
  let params ← formalParameters self .function
  let result ← returnTypeOpt self
  demand (!isSetter || result.isEmpty)
  memberEnd
  finish .methodSignature start (key :: (params.trees ++ result))

def typeMember : Parser Tree := do
  let start ← here
  if (← at_ .parenL) || (← at_ .lt) then
    let parts ← signature self
    memberEnd
    finish .callSignature start parts
  else if (← atKeyword .kwNew) && (← nextIs fun t => t.isPunct .parenL || t.isPunct .lt) then
    advance
    let parts ← constructedSignature self
    memberEnd
    finish .constructSignature start parts
  else
    let mods ← modifiers false false
    allowModifiers [.kwReadonly] mods
    if ← atAccessor then
      let isSetter ← atKeyword .kwSet
      advance
      accessorSignature self start isSetter
    else if ← atIndexSignature then indexSignature self start mods
    else
      let (key, _) ← propertyKey self false
      let _ ← eat .question
      if (← at_ .parenL) || (← at_ .lt) then
        let parts ← signature self
        memberEnd
        finish .methodSignature start (key :: parts)
      else
        let type ← typeAscriptionOpt self
        memberEnd
        finish (.propertySignature (mods.contains .kwReadonly)) start (key :: type)

def typeMembers : Parser (List Tree) := do
  expect .braceL
  many do
    if ← eat .braceR then return none else return some (← typeMember self)

def typeLiteral : Parser Tree := do
  let start ← here
  let members ← typeMembers self
  finish .typeLiteral start members

/-! ## Mapped types and tuples -/

def atMappedType : Parser Bool :=
  ahead do
    expect .braceL
    if (← eat .plus) || (← eat .minus) then return ← atKeyword .kwReadonly
    let _ ← eatKeyword .kwReadonly
    expect .bracketL
    guard (isPlainName (← peek))
    advance
    atKeyword .kwIn

def mappedType : Parser Tree := do
  let start ← here
  expect .braceL
  if (← eat .plus) || (← eat .minus) then expectKeyword .kwReadonly
  else
    let _ ← eatKeyword .kwReadonly
  expect .bracketL
  let key ← bindingIdentifier
  expectKeyword .kwIn
  let constraint ← self .type
  let renamed ← optionally (eatKeyword .kwAs) (self .type)
  expect .bracketR
  if (← eat .plus) || (← eat .minus) then expect .question
  else
    let _ ← eat .question
  let type ← optionally (eat .colon) (self .type)
  let _ ← eat .semi
  expect .braceR
  finish .mappedType start (key :: constraint :: (renamed ++ type))

/-- What a member of a tuple asks of the array. -/
inductive TupleMember where
  | required
  | mayBeMissing
  /-- Any number of elements. -/
  | rest
  /-- The elements of another type, of which the tuple cannot know how many there are. -/
  | spread
deriving DecidableEq

def restMember (type : Tree) : TupleMember :=
  match type with
  | .node .arrayType _ _ => .rest
  | .node .namedTupleMember _ [_, .node .arrayType _ _] => .rest
  | _ => .spread

/-- A member of a tuple without a name. A question mark behind its type says that it may be
missing. -/
def plainTupleMember : Parser (Tree × TupleMember) := do
  let start ← here
  if ← eat .ellipsis then
    let type ← self .type
    return (← finish .restType start [type], restMember type)
  else
    match ← self .type with
    | .node .nullableType span [type] =>
      if type.start = span.start then return (.node .optionalType span [type], .mayBeMissing)
      else return (.node .nullableType span [type], .required)
    | type => return (type, .required)

def atTupleName : Parser Bool :=
  ahead do
    let _ ← eat .ellipsis
    let _ ← identifierName
    if ← at_ .colon then return true
    expect .question
    at_ .colon

/-- A named member of a tuple. What may be missing or is a rest is marked at the name, and not as
both. -/
def namedTupleMember : Parser (Tree × TupleMember) := do
  let start ← here
  let isRest ← eat .ellipsis
  let nameStart ← here
  let name ← identifierName
  let isOptional ← eat .question
  expect .colon
  let (type, role) ← plainTupleMember self
  demand (role == .required && !(isRest && isOptional))
  let member ← finish .namedTupleMember nameStart [name, type]
  if isRest then return (← finish .restType start [member], restMember member)
  else return (member, if isOptional then .mayBeMissing else .required)

def tupleMember : Parser (Tree × TupleMember) := do
  if ← atTupleName then namedTupleMember self else plainTupleMember self

/-- Whether no required member follows one that may be missing, and after a rest comes neither
another one nor a member that may be missing. -/
def tupleOrderOk : List TupleMember → Bool
  | [] => true
  | .mayBeMissing :: rest => !rest.contains .required && tupleOrderOk rest
  | .rest :: rest => !rest.contains .rest && !rest.contains .mayBeMissing && tupleOrderOk rest
  | _ :: rest => tupleOrderOk rest

def tupleType : Parser Tree := do
  let start ← here
  expect .bracketL
  let members ← commaList (tupleMember self) .bracketR
  demand (tupleOrderOk (members.map Prod.snd))
  finish .tupleType start (members.map Prod.fst)

/-! ## Simple types -/

/-- The type that a word names by itself. -/
def typeKeyword? : Keyword → Option TypeKeyword
  | .kwAny => some .any
  | .kwBigint => some .bigint
  | .kwBoolean => some .boolean
  | .kwNever => some .never
  | .kwNull => some .null
  | .kwNumber => some .number
  | .kwObject => some .object
  | .kwString => some .string
  | .kwSymbol => some .symbol
  | .kwUndefined => some .undefined
  | .kwUnknown => some .unknown
  | .kwVoid => some .void
  | _ => none

/-- A type imported from a module by name. -/
def importType : Parser Tree := do
  let start ← here
  expectKeyword .kwImport
  expect .parenL
  let source ← stringLiteral
  let options ← optionally (eat .comma) (self .objectLiteral)
  expect .parenR
  let qualifier ←
    if ← eat .dot then do
      let nameStart ← here
      let first ← identifierName
      pure [← grow
        (fun left => do
          if ← eat .dot then
            let right ← identifierName
            return some (← finish .importTypeQualifiedName nameStart [left, right])
          else return none)
        first]
    else pure []
  let arguments ← typeArgumentsOnLine self
  finish .importType start (source :: (options ++ qualifier ++ arguments))

/-- The type of a value. -/
def typeQuery : Parser Tree := do
  let start ← here
  expectKeyword .kwTypeof
  if ← atKeyword .kwImport then
    let imported ← importType self
    finish .typeQuery start [imported]
  else
    let name ← typeName
    let arguments ← typeArgumentsOnLine self
    finish .typeQuery start (name :: arguments)

/-- A statement that a parameter has a type, or is true. -/
def assertsPredicate : Parser Tree := do
  let start ← here
  expectKeyword .kwAsserts
  let name ← if ← atKeyword .kwThis then leaf .thisType else identifierName
  let type ← optionally (eatKeyword .kwIs) (predicateType self)
  finish .typePredicate start (name :: type)

def thisType : Parser Tree := do
  let start ← here
  let this ← leaf .thisType
  if (← atKeyword .kwIs) && !(← onNewLine) then
    advance
    let type ← predicateType self
    finish .typePredicate start [this, type]
  else return this

def literalType (label : Label) : Parser Tree := do
  let start ← here
  let literal ← leaf label
  finish .literalType start [literal]

def negativeLiteralType : Parser Tree := do
  let start ← here
  expect .minus
  let literal ←
    match (← peek).kind with
    | .number value => leaf (.numericLiteral value)
    | .bigInt value => leaf (.bigIntLiteral value)
    | _ => fail
  let negative ← finish (.unaryExpression .minus) start [literal]
  finish .literalType start [negative]

def templateType : Parser Tree := do
  let start ← here
  let (pieces, types) ← templateParts (self .type)
  demand (pieces.all isCooked)
  finish .templateType start (pieces ++ types)

def parenthesizedType : Parser Tree := do
  let start ← here
  expect .parenL
  let type ← self .type
  expect .parenR
  finish .parenthesizedType start [type]

/-- Whether a token begins a type, wherever it stands. -/
def beginsType (t : Token) : Bool :=
  match t.kind with
  | .word none _ | .string _ | .number _ | .bigInt _ => true
  | .word (some k) _ =>
    isPlainName t ||
      [.kwNull, .kwVoid, .kwThis, .kwTypeof, .kwImport, .kwNew, .kwTrue, .kwFalse,
        .kwFunction].contains k
  | .punct p =>
    [.braceL, .bracketL, .lt, .pipe, .amp, .backtick, .star, .question, .bang, .ellipsis].contains p
  | _ => false

def atNumber : Parser Bool := do
  match (← peek).kind with
  | .number _ | .bigInt _ => return true
  | _ => return false

/-- Whether a token begins a parameter, or ends a list of none. -/
def beginsParameter (t : Token) : Bool :=
  isNameToken t || t.isPunct .parenR || t.isPunct .at || t.keyword?.any Keyword.isModifier ||
    match t.kind with
    | .privateName _ => true
    | _ => false

/-- Whether a type begins here. Behind parentheses it is enough that a parameter begins. -/
def atType : Parser Bool :=
  ahead do
    let parens ← many do if ← eat .parenL then return some () else return none
    let t ← peek
    if ← eat .minus then atNumber
    else return beginsType t || (!parens.isEmpty && beginsParameter t)

/-- A type behind a question mark, or one of which nothing is known. -/
def questionedType : Parser Tree := do
  let start ← here
  expect .question
  let t ← peek
  if [.comma, .braceR, .parenR, .gt, .assign, .pipe].any t.isPunct then finish .unknownType start []
  else
    let type ← self .type
    finish .nullableType start [type]

/-- A type without operators and brackets behind it. -/
def simpleType : Parser Tree := do
  let t ← peek
  match t.kind with
  | .string value => literalType (.stringLiteral value)
  | .number value => literalType (.numericLiteral value)
  | .bigInt value => literalType (.bigIntLiteral value)
  | .punct .minus => negativeLiteralType
  | .punct .backtick => templateType self
  | .punct .parenL => parenthesizedType self
  | .punct .bracketL => tupleType self
  | .punct .braceL => if ← atMappedType then mappedType self else typeLiteral self
  | .punct .question => questionedType self
  | .punct .bang => do
    advance
    let type ← self .simpleType
    finish .nonNullableType t.start [type]
  | .word (some .kwTrue) _ => literalType (.booleanLiteral true)
  | .word (some .kwFalse) _ => literalType (.booleanLiteral false)
  | .word (some .kwThis) _ => thisType self
  | .word (some .kwTypeof) _ => typeQuery self
  | .word (some .kwImport) _ => importType self
  | .word (some .kwAsserts) _ =>
    if ← nextOnLineIs isWord then assertsPredicate self else typeReference self
  | .word (some k) _ =>
    match typeKeyword? k with
    | some word =>
      if k != .kwNull && k != .kwVoid && (← nextIs fun n => n.isPunct .dot) then typeReference self
      else leaf (.keywordType word)
    | none => typeReference self
  | .word none _ => typeReference self
  | _ => fail

/-- A simple type with the brackets and marks behind it. -/
def postfixType : Parser Tree := do
  let start ← here
  let first ← simpleType self
  grow
    (fun type => do
      if ← onNewLine then return none
      else if ← at_ .bang then
        advance
        return some (← finish .nonNullableType start [type])
      else if ← at_ .question then
        if ← ahead do
            advance
            atType then
          return none
        advance
        return some (← finish .nullableType start [type])
      else if ← eat .bracketL then
        if ← atType then
          let index ← self .type
          expect .bracketR
          return some (← finish .indexedAccessType start [type, index])
        else
          expect .bracketR
          return some (← finish .arrayType start [type])
      else return none)
    first

/-! ## Operators, unions, functions, conditions -/

/-- The bound of an inferred type, unless what follows shows that it begins a condition. -/
def inferBound : Parser (List Tree) := do
  let bound ← attempt do
    expectKeyword .kwExtends
    let type ← withContext (fun c => { c with allowConditional := false }) (self .type)
    guard (!(← context).allowConditional || !(← at_ .question))
    return type
  return bound.toList

/-- A type that a condition finds. -/
def inferType : Parser Tree := do
  let start ← here
  expectKeyword .kwInfer
  let nameStart ← here
  let name ← bindingIdentifier
  let bound ← inferBound self
  let parameter ← finish .typeParameter nameStart (name :: bound)
  finish .inferType start [parameter]

/-- Whether `readonly` may stand before a type. -/
def takesReadonly : Label → Bool
  | .arrayType | .tupleType => true
  | _ => false

def operatorType (op : TypeOperator) : Parser Tree := do
  let start ← here
  advance
  let type ← self .typeOperand
  demand (op != .readonly || takesReadonly type.label)
  finish (.typeOperator op) start [type]

def typeOperand : Parser Tree := do
  match (← peek).keyword? with
  | some .kwKeyof => operatorType self .keyof
  | some .kwUnique => operatorType self .unique
  | some .kwReadonly => operatorType self .readonly
  | some .kwInfer => inferType self
  | _ => withContext (fun c => { c with allowConditional := true }) (postfixType self)

/-- Operands with an operator between them, and perhaps before the first. -/
def joinedTypes (op : Punct) (label : Label) (operand : Parser Tree) : Parser Tree := do
  let start ← here
  let leading ← eat op
  let first ← operand
  let rest ← many do
    if ← eat op then return some (← operand) else return none
  if leading || !rest.isEmpty then finish label start (first :: rest) else return first

def unionType : Parser Tree :=
  joinedTypes .pipe .unionType (joinedTypes .amp .intersectionType (self .typeOperand))

/-- Reads the first parameter up to where its name or pattern ends. -/
def skipParameterStart : Parser Bool := do
  let _ ← modifiers false false
  if isPlainName (← peek) || (← atKeyword .kwThis) then
    advance
    return true
  else if (← at_ .bracketL) || (← at_ .braceL) then
    let before ← isFlawed
    let _ ← self .bindingPattern
    return (← isFlawed) == before
  else return false

/-- Whether the parenthesis here begins the parameters of a function type. -/
def atFunctionTypeParameters : Parser Bool :=
  ahead do
    expect .parenL
    if (← at_ .parenR) || (← at_ .ellipsis) then return true
    if ← skipParameterStart self then
      if (← at_ .colon) || (← at_ .comma) || (← at_ .question) || (← at_ .assign) then return true
      if ← eat .parenR then at_ .arrow else return false
    else return false

/-- Parameters and return type of a function type. In the return type conditions may stand again. -/
def functionTypeParts : Parser (List Tree × Parameters) := do
  let typeParams ← typeParametersOpt self
  let params ← formalParameters self .function
  let result ← withContext (fun c => { c with allowConditional := true }) (returnType self .arrow)
  return (typeParams ++ params.trees ++ [result], params)

def functionType : Parser Tree := do
  let start ← here
  let (parts, _) ← functionTypeParts self
  finish .functionType start parts

/-- The type of a constructor, which has no `this` parameter. -/
def constructorType : Parser Tree := do
  let start ← here
  let _ ← eatKeyword .kwAbstract
  expectKeyword .kwNew
  let (parts, params) ← functionTypeParts self
  demand params.thisParameter.isEmpty
  finish .constructorType start parts

/-- A conditional type, or the type that it would test. -/
def conditionalType : Parser Tree := do
  let start ← here
  let tested ← unionType self
  if (← context).allowConditional && (← atKeyword .kwExtends) && !(← onNewLine) then
    advance
    let bound ← withContext (fun c => { c with allowConditional := false }) (self .type)
    expect .question
    let yes ← withContext (fun c => { c with allowConditional := true }) (self .type)
    expect .colon
    let no ← withContext (fun c => { c with allowConditional := true }) (self .type)
    finish .conditionalType start [tested, bound, yes, no]
  else return tested

def type : Parser Tree := do
  if ← at_ .lt then functionType self
  else if (← at_ .parenL) && (← atFunctionTypeParameters self) then functionType self
  else if ← atKeyword .kwNew then constructorType self
  else if (← atKeyword .kwAbstract) && (← nextIs fun t => t.isKeyword .kwNew) then
    constructorType self
  else conditionalType self

end PureLint.Grammar
