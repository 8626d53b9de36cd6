import PureLint.Grammar.Statements

/-!
# Declarations

Functions, classes, interfaces, type aliases, enumerations and namespaces; what a module imports and
exports; and the statement as a whole, which picks among all of them by its first words.
-/

namespace PureLint.Grammar

open PureLint.Grammar.Parser

variable (self : Self)

/-! ## Types and namespaces -/

/-- Whether an expression is a name, perhaps with dots. -/
def isDottedName : Tree → Bool
  | .node (.identifierReference _) _ _ => true
  | .node .staticMember _ [object, _] => isDottedName object
  | _ => false

/-- An interface that an interface extends, which is given by its name. -/
def interfaceHeritage : Parser Tree := do
  let start ← here
  let parts ← superClass self
  demand (parts.head?.any isDottedName)
  finish .interfaceHeritage start parts

def interfaceDeclaration (start : Nat) : Parser Tree := do
  expectKeyword .kwInterface
  let name ← bindingIdentifier
  let typeParams ← typeParametersOpt self
  let heritage ←
    if ← eatKeyword .kwExtends then commaSeparated (interfaceHeritage self) else pure []
  let bodyStart ← here
  let members ← typeMembers self
  let body ← finish .interfaceBody bodyStart members
  finish .interfaceDeclaration start (name :: (typeParams ++ heritage ++ [body]))

/-- A name for a type, or for one that the compiler knows by itself. -/
def typeAlias (start : Nat) : Parser Tree := do
  expectKeyword .kwType
  let name ← bindingIdentifier
  let typeParams ← typeParametersOpt self
  expect .assign
  let type ←
    if (← atKeyword .kwIntrinsic) && !(← nextIs fun t => t.isPunct .dot) then
      leaf (.keywordType .intrinsic)
    else self .type
  semicolon
  finish .typeAliasDeclaration start (name :: (typeParams ++ [type]))

/-- Whether a key names a member of an enumeration: a word or a string, the string in brackets or
not. -/
def isEnumKey (key : Tree) (computed : Bool) : Bool :=
  match key with
  | .node (.stringLiteral _) _ _ => true
  | .node (.identifierName _) _ _ => !computed
  | .node .templateLiteral _ pieces => computed && pieces.length == 1
  | _ => false

def enumMember : Parser Tree := do
  let start ← here
  let (key, computed) ← propertyKey self false
  demand (isEnumKey key computed)
  let value ← optionally (at_ .assign) (initializer self)
  finish .enumMember start (key :: value)

def enumDeclaration (start : Nat) : Parser Tree := do
  expectKeyword .kwEnum
  let name ← bindingIdentifier
  let bodyStart ← here
  expect .braceL
  let members ← commaList (enumMember self) .braceR
  let body ← finish .enumBody bodyStart members
  finish .enumDeclaration start [name, body]

def moduleBlock : Parser Tree := do
  let start ← here
  let statements ← statementsInBraces self
  finish .moduleBlock start (markDirectives statements)

/-- Nests the bodies of a namespace whose name has dots. -/
def nestModules : List Tree → Tree → Tree
  | [], body => body
  | name :: names, body =>
    .node .moduleDeclaration ⟨name.start, body.stop⟩ [name, nestModules names body]

/-- A namespace, behind the word that declares it. -/
def namespaceRest (start : Nat) : Parser Tree := do
  let name ← bindingIdentifier
  let inner ← many do
    if ← eat .dot then return some (← bindingIdentifier) else return none
  let body ← moduleBlock self
  finish .moduleDeclaration start [name, nestModules inner body]

/-- A namespace, or a module named by a string, which may lack a body. -/
def moduleDeclaration (start : Nat) : Parser Tree := do
  let isModule ← atKeyword .kwModule
  advance
  match (← peek).kind with
  | .string _ =>
    guard isModule
    let name ← stringLiteral
    if ← at_ .braceL then
      let body ← moduleBlock self
      finish .moduleDeclaration start [name, body]
    else
      semicolon
      finish .moduleDeclaration start [name]
  | _ => namespaceRest self start

/-- An addition to the global scope. -/
def globalDeclaration (start : Nat) : Parser Tree := do
  expectKeyword .kwGlobal
  let body ← moduleBlock self
  finish .globalDeclaration start [body]

/-- What an import gives a name to: a module, or something with a name. -/
def importEquals (start : Nat) (name : Tree) : Parser Tree := do
  expect .assign
  let target ←
    if ← atKeyword .kwRequire then do
      let refStart ← here
      advance
      expect .parenL
      let source ← stringLiteral
      expect .parenR
      finish .externalModuleReference refStart [source]
    else typeName
  semicolon
  finish .importEqualsDeclaration start [name, target]

/-- An import that only gives a name, perhaps to a type. -/
def importAlias (start : Nat) : Parser Tree := do
  expectKeyword .kwImport
  let first ← bindingIdentifier
  let name ←
    if first.name? == some "type".toList && (← atIdentifier) then bindingIdentifier else pure first
  importEquals start name

/-! ## Any declaration -/

/-- A declaration behind its modifiers; `start` is where they begin. Only a class has decorators. -/
def declaration (start : Nat) (mods : List Keyword) (decorators : List Tree) : Parser Tree := do
  let t ← peek
  demand (decorators.isEmpty || t.isKeyword .kwClass)
  match t.keyword? with
  | some .kwClass =>
    allowModifiers [.kwDeclare, .kwAbstract] mods
    classTail self start decorators
  | some .kwFunction =>
    allowModifiers [.kwDeclare, .kwAsync] mods
    functionTail self start (mods.contains .kwAsync) true (mods.contains .kwDeclare)
  | some .kwAsync =>
    guard (← nextOnLineIs fun t => t.isKeyword .kwFunction)
    advance
    functionTail self start true true false
  | some .kwVar | some .kwLet | some .kwConst =>
    allowModifiers [.kwDeclare] mods
    variableStatement self start
  | some k =>
    guard (← isTypescript)
    allowModifiers (if k == .kwEnum then [.kwDeclare, .kwConst] else [.kwDeclare]) mods
    match k with
    | .kwInterface => interfaceDeclaration self start
    | .kwType => typeAlias self start
    | .kwEnum => enumDeclaration self start
    | .kwNamespace | .kwModule => moduleDeclaration self start
    | .kwGlobal => globalDeclaration self start
    | .kwImport => importAlias start
    | _ => fail
  | none => fail

/-- Whether a declaration begins here that only files with types have, or one with modifiers. A
modifier stands on the line of what it modifies, and so do `type` and `interface` and the words that
declare a namespace. -/
def atTypedDeclaration : Parser Bool := do
  let _ ← many do
    match (← peek).keyword? with
    | some .kwVar | some .kwLet | some .kwConst | some .kwFunction | some .kwClass | some .kwEnum =>
      return none
    | some .kwInterface | some .kwType =>
      guard (← nextOnLineIs isNameToken)
      return none
    | some .kwModule | some .kwNamespace =>
      guard (← nextOnLineIs fun t =>
        isNameToken t || (match t.kind with | .string _ => true | _ => false))
      return none
    | some .kwGlobal =>
      guard (← nextIs fun t =>
        t.isPunct .braceL || t.isKeyword .kwExport || (isWord t && t.keyword?.isNone))
      return none
    | some .kwImport =>
      guard (← nextIs fun t =>
        isWord t || t.isPunct .star || t.isPunct .braceL ||
          (match t.kind with | .string _ => true | _ => false))
      return none
    | some .kwExport =>
      advance
      let isType ← atKeyword .kwType
      let t ← if isType then (do return (← lookahead (do advance; peek)).getD (← peek)) else peek
      if [.assign, .star, .braceL, .at].any t.isPunct || t.isKeyword .kwDefault ||
          t.isKeyword .kwAs then
        return none
      return some ()
    | some .kwStatic =>
      advance
      return some ()
    | some .kwAbstract | some .kwAccessor | some .kwAsync | some .kwDeclare | some .kwPrivate
    | some .kwProtected | some .kwPublic | some .kwReadonly =>
      advance
      guard !(← onNewLine)
      return some ()
    | _ => fail
  return true

/-- A declaration that only files with types have, or one with modifiers. What is declared needs no
values, and `await` waits for nothing in it. -/
def typedDeclaration : Parser Tree := do
  let start ← here
  let mods ← declarationModifiers
  withContext (fun c =>
    { c with ambient := c.ambient || mods.contains .kwDeclare, inAsync := false })
    (declaration self start mods [])

/-! ## Imports -/

/-- A name that a module exports or imports, as it stands in a list: its outer and its inner token,
and whether it is marked as a type. -/
structure Specifier where
  start : Nat
  outer : Token
  inner : Token
  isType : Bool

/-- The words of a specifier, up to the next comma or brace. -/
def specifierWords : Parser (List Token) := do
  let words ← many do
    let t ← peek
    match t.kind with
    | .word _ _ =>
      advanceName
      return some t
    | .string _ =>
      demand !(Scan.holdsLoneSurrogate (← textHere))
      advance
      return some t
    | _ => return none
  if !(← at_ .braceR) then expect .comma
  return words

/-- The parts of a specifier. One word is both names, `as` renames, and `type` may stand first. -/
def Specifier.ofWords? : List Token → Option Specifier
  | [a] => some ⟨a.start, a, a, false⟩
  | [a, b] => if a.isKeyword .kwType then some ⟨a.start, b, b, true⟩ else none
  | [a, b, c] => if b.isKeyword .kwAs then some ⟨a.start, a, c, false⟩ else none
  | [a, b, c, d] =>
    if a.isKeyword .kwType && c.isKeyword .kwAs then some ⟨a.start, b, d, true⟩ else none
  | _ => none

/-- Reads a specifier. It is marked as a type only where there are types, and not twice. -/
def specifier (inTypes : Bool) : Parser Specifier := do
  let s ← ofOption (Specifier.ofWords? (← specifierWords))
  guard (!s.isType || (← isTypescript))
  demand !(s.isType && inTypes)
  return s

def moduleExportName? (t : Token) : Option Tree :=
  match t.kind with
  | .word _ name => some (.node (.identifierName name) t.span [])
  | .string value => some (.node (.stringLiteral value) t.span [])
  | _ => none

def bracedSpecifiers {α : Type} (item : Parser α) : Parser (List α) := do
  expect .braceL
  many do
    if ← eat .braceR then return none else return some (← item)

/-- A name that a module imports. The name it is bound to is no word that waits or yields. -/
def importSpecifier (inTypes : Bool) : Parser Tree := do
  let s ← specifier inTypes
  let outer ← ofOption (moduleExportName? s.outer)
  let name ← ofOption (nameOf? s.inner)
  demand (isPlainName s.inner)
  return .node .importSpecifier ⟨s.start, s.inner.stop⟩
    [outer, .node (.bindingIdentifier name) s.inner.span []]

/-- Everything a module exports, under one name. -/
def importNamespace : Parser Tree := do
  let start ← here
  expect .star
  expectKeyword .kwAs
  let name ← bindingIdentifier
  finish .importNamespaceSpecifier start [name]

def attributeKey? : Tree → Option Text
  | .node .importAttribute _ (.node (.identifierName name) _ _ :: _) => some name
  | .node .importAttribute _ (.node (.stringLiteral value) _ _ :: _) => some value
  | _ => none

def hasDuplicate : List Text → Bool
  | [] => false
  | t :: ts => ts.contains t || hasDuplicate ts

def importAttribute : Parser Tree := do
  let start ← here
  let key ←
    match (← peek).kind with
    | .string _ => stringLiteral
    | _ => identifierName
  expect .colon
  let value ← stringLiteral
  finish .importAttribute start [key, value]

/-- The attributes of an import; no key is given twice. -/
def withClauseOpt : Parser (List Tree) := do
  if (← atKeyword .kwWith) || ((← atKeyword .kwAssert) && !(← onNewLine)) then
    advance
    let start ← here
    expect .braceL
    let items ← commaList importAttribute .braceR
    demand !(hasDuplicate (items.filterMap attributeKey?))
    return [← finish .withClause start items]
  else return []

def fromClause : Parser (List Tree) := do
  expectKeyword .kwFrom
  let source ← stringLiteral
  let attributes ← withClauseOpt
  return source :: attributes

/-- What the word behind `import` says about it. -/
inductive ImportPhase where
  | plain
  /-- Types only. -/
  | types
  /-- All of the module, evaluated when it is first used. -/
  | deferred
  /-- The source of the module, under one name. -/
  | source
deriving DecidableEq

/-- Whether `type` or `source` here is followed by the name that is imported, and not by `from` as
the word. -/
def atNameBehindWord : Parser Bool :=
  ahead do
    advance
    if !(← atIdentifier) then return false
    if ← atKeyword .kwFrom then nextIs fun t => t.isKeyword .kwFrom || t.isPunct .assign
    else return true

/-- The phase of an import, whose word is read. -/
def importPhase : Parser ImportPhase := do
  if (← isTypescript) && (← atKeyword .kwType) &&
      ((← atNameBehindWord) || (← nextIs fun t => t.isPunct .braceL || t.isPunct .star)) then
    advance
    return .types
  else if (← atKeyword .kwDefer) && (← nextIs fun t => t.isPunct .star) then
    advance
    return .deferred
  else if (← atKeyword .kwSource) && (← atNameBehindWord) then
    advance
    return .source
  else return .plain

/-- What an import that is no alias brings in: a default, and either all under one name or names in
braces. Types are one of the three, and a source is a default alone. -/
def importClause (phase : ImportPhase) : Parser (List Tree) := do
  let default ← optionally atIdentifier do
    let start ← here
    let name ← bindingIdentifier
    finish .importDefaultSpecifier start [name]
  if !default.isEmpty && !(← at_ .comma) then return default
  if !default.isEmpty then
    expect .comma
    demand (phase == .plain)
  let named ←
    if ← at_ .star then do
      let all ← importNamespace
      pure [all]
    else bracedSpecifiers (importSpecifier (phase == .types))
  return default ++ named

def importDeclaration (start : Nat) : Parser Tree := do
  expectKeyword .kwImport
  match (← peek).kind with
  | .string _ =>
    let source ← stringLiteral
    let attributes ← withClauseOpt
    semicolon
    finish .importDeclaration start (source :: attributes)
  | _ =>
    let phase ← importPhase
    if (← isTypescript) && (← atIdentifier) && (← nextIs fun t => t.isPunct .assign) then
      importEquals start (← bindingIdentifier)
    else
      let clause ← importClause phase
      let source ← fromClause
      semicolon
      finish .importDeclaration start (clause ++ source)

/-! ## Exports -/

def exportSpecifier (s : Specifier) : Parser Tree := do
  let inner ← ofOption (moduleExportName? s.outer)
  let outer ← ofOption (moduleExportName? s.inner)
  return .node .exportSpecifier ⟨s.start, s.inner.stop⟩ [inner, outer]

/-- A name of this module that it exports. No word that is reserved in strict code is one. -/
def exportReference (s : Specifier) : Parser Tree := do
  let name ← ofOption (nameOf? s.outer)
  demand (isPlainName s.outer && !s.outer.keyword?.any Keyword.isReservedInStrictCode)
  let outer ← ofOption (moduleExportName? s.inner)
  return .node .exportSpecifier ⟨s.start, s.inner.stop⟩
    [.node (.identifierReference name) s.outer.span [], outer]

def exportNames (start : Nat) (inTypes : Bool) : Parser Tree := do
  let items ← bracedSpecifiers (specifier inTypes)
  if ← atKeyword .kwFrom then
    let specifiers ← items.mapM exportSpecifier
    let source ← fromClause
    semicolon
    finish .exportNamedDeclaration start (specifiers ++ source)
  else
    let specifiers ← items.mapM exportReference
    semicolon
    finish .exportNamedDeclaration start specifiers

/-- Everything another module exports. -/
def exportAll (start : Nat) : Parser Tree := do
  expect .star
  let name ← optionally (eatKeyword .kwAs) do
    match (← peek).kind with
    | .string _ =>
      demand !(Scan.holdsLoneSurrogate (← textHere))
      stringLiteral
    | _ => identifierName
  let source ← fromClause
  semicolon
  finish .exportAllDeclaration start (name ++ source)

/-- Decorators before a class that is exported, which may also stand before `export`, but not in
both places. -/
def exportedDecorators (before : List Tree) : Parser (List Tree) := do
  let behind ← decorators self
  demand (before.isEmpty || behind.isEmpty)
  return before ++ behind

/-- What `export default` exports: a declaration that may lack a name, or an expression. -/
def exportedDefault (before : List Tree) : Parser Tree := do
  let start ← here
  let decorators ← exportedDecorators self before
  if ← atKeyword .kwClass then classTail self start decorators
  else if (← atKeyword .kwAbstract) && (← nextOnLineIs fun t => t.isKeyword .kwClass) then
    advance
    classTail self start decorators
  else
    demand decorators.isEmpty
    if ← atKeyword .kwFunction then functionTail self start false false false
    else if (← atKeyword .kwAsync) && (← nextOnLineIs fun t => t.isKeyword .kwFunction) then
      advance
      functionTail self start true false false
    else if (← isTypescript) && (← atKeyword .kwInterface) && (← nextOnLineIs isNameToken) then
      interfaceDeclaration self start
    else
      let e ← self (.assignment true)
      semicolon
      return e

def exportedDeclaration (before : List Tree) : Parser Tree := do
  let start ← here
  let decorators ← exportedDecorators self before
  let mods ← if ← isTypescript then declarationModifiers else pure []
  withContext (fun c => { c with ambient := c.ambient || mods.contains .kwDeclare })
    (declaration self start mods decorators)

/-- An export, with the decorators before it. -/
def exportDeclaration (before : List Tree) : Parser Tree := do
  let start ← here
  expectKeyword .kwExport
  let typescript ← isTypescript
  if ← at_ .braceL then exportNames start false
  else if ← at_ .star then exportAll start
  else if ← eatKeyword .kwDefault then
    let d ← exportedDefault self before
    finish .exportDefaultDeclaration start [d]
  else if typescript && (← eat .assign) then
    let e ← self (.assignment true)
    semicolon
    finish .exportAssignment start [e]
  else if typescript && (← atKeyword .kwAs) && (← nextIs fun t => t.isKeyword .kwNamespace) then
    advance
    advance
    let name ← identifierName
    semicolon
    finish .namespaceExportDeclaration start [name]
  else if typescript && (← atKeyword .kwType) &&
      (← nextIs fun t => t.isPunct .braceL || t.isPunct .star) then
    advance
    if ← at_ .braceL then exportNames start true else exportAll start
  else
    let d ← exportedDeclaration self before
    finish .exportNamedDeclaration start [d]

/-! ## Statements -/

def decoratedStatement (allowDeclarations : Bool) : Parser Tree := do
  let start ← here
  let decorators ← decorators self
  if ← atKeyword .kwExport then exportDeclaration self decorators
  else
    let mods ← modifiers false false
    allowModifiers [.kwDeclare, .kwAbstract] mods
    demand allowDeclarations
    classTail self start decorators

/-- A function as a statement. As the body of another statement it neither waits nor yields. -/
def functionStatement (allowDeclarations : Bool) : Parser Tree := do
  let start ← here
  let isAsync ← eatKeyword .kwAsync
  demand (allowDeclarations || (!isAsync && !(← nextIs fun t => t.isPunct .star)))
  functionTail self start isAsync true false

/-- A declaration of constants, or of an enumeration whose members are constants. -/
def constStatement (allowDeclarations : Bool) : Parser Tree := do
  if (← isTypescript) && (← nextIs fun t => t.isKeyword .kwEnum) then typedDeclaration self
  else
    demand allowDeclarations
    variableStatement self (← here)

/-- A statement. The flag says whether declarations may stand here; declarations of variables that
end with their block, of classes and of functions that wait or yield may not be the body of another
statement. -/
def statement (allowDeclarations : Bool) : Parser Tree :=
  withContext (fun c => { c with allowConditional := true, inDecorator := false }) do
    let t ← peek
    match t.kind with
    | .punct .braceL => self .block
    | .punct .semi => leaf .emptyStatement
    | .punct .at => decoratedStatement self allowDeclarations
    | _ =>
      match t.keyword? with
      | some .kwIf => ifStatement self
      | some .kwFor => forStatement self
      | some .kwWhile => whileStatement self
      | some .kwDo => doWhileStatement self
      | some .kwContinue => jumpStatement .kwContinue .continueStatement
      | some .kwBreak => jumpStatement .kwBreak .breakStatement
      | some .kwReturn => returnStatement self
      | some .kwWith => withStatement self
      | some .kwSwitch => switchStatement self
      | some .kwThrow => throwStatement self
      | some .kwTry => tryStatement self
      | some .kwDebugger =>
        advance
        semicolon
        finish .debuggerStatement t.start []
      | some .kwClass =>
        demand allowDeclarations
        classTail self t.start []
      | some .kwExport => exportDeclaration self []
      | some .kwImport =>
        if ← nextIs fun n => n.isPunct .parenL || n.isPunct .dot then expressionOrLabeled self
        else importDeclaration t.start
      | some .kwVar => variableStatement self t.start
      | some .kwConst => constStatement self allowDeclarations
      | some .kwLet =>
        if t.isEscaped then expressionOrLabeled self else letStatement self allowDeclarations
      | some .kwFunction => functionStatement self allowDeclarations
      | some .kwAsync =>
        if ← nextOnLineIs fun n => n.isKeyword .kwFunction then
          functionStatement self allowDeclarations
        else expressionOrLabeled self
      | some .kwUsing => if ← atUsing true then usingStatement self else expressionOrLabeled self
      | some .kwAwait => if ← atAwaitUsing then usingStatement self else expressionOrLabeled self
      | some _ =>
        if (← isTypescript) && (← ahead atTypedDeclaration) then typedDeclaration self
        else expressionOrLabeled self
      | none => expressionOrLabeled self

end PureLint.Grammar
