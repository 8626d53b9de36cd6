import PureLint.Grammar.Declarations

/-!
# Programs

The parts of the grammar refer to each other through goals. `parseGoal` ties them together: each
level of nesting uses up one unit of fuel, and a text cannot nest deeper than a fixed multiple of
its length, so `program` gives it that much. Whether a file is a module decides if `await` is an
operator at its top; where the name of the file does not say, a file that imports or exports
something is one.
-/

namespace PureLint.Grammar

open PureLint.Grammar.Parser

/-- One level of the grammar, given the parsers of the levels inside it. -/
def parseStep (self : Self) : Goal → Parser Tree
  | .expression => expression self
  | .assignment allowReturnType => assignment self allowReturnType
  | .binary level => binary self level
  | .unary => unary self
  | .leftHandSide allowCalls => leftHandSide self allowCalls
  | .statement allowDeclarations => statement self allowDeclarations
  | .block => block self
  | .bindingPattern => bindingPattern self
  | .type => type self
  | .typeOperand => typeOperand self
  | .simpleType => simpleType self
  | .objectLiteral => objectLiteral self
  | .markup => markup self

/-- The parser of each part of the grammar, down to a depth of nesting. -/
def parseGoal : Nat → Goal → Parser Tree
  | 0 => fun _ => fail
  | n + 1 => parseStep (parseGoal n)

/-- More nesting than a text of that many characters can have. -/
def nestingBound (length : Nat) : Nat := 12 * length + 24

/-- The first line, if it names an interpreter. -/
def hashbang? (text : Text) : Option (Text × Nat) :=
  match text with
  | '#' :: '!' :: cs =>
    let line := cs.takeWhile fun c => !Scan.isLineEnd c
    some (cs.drop line.length, 2 + Text.byteLength line)
  | _ => none

/-- The statements of a program up to the end of the text. -/
def programStatements (self : Self) : Parser (List Tree) :=
  many do
    if (← peek).kind == .eof then return none else return some (← self (.statement true))

def program? (dialect : Dialect) (isModule : Bool) (source : Text) : Option Tree :=
  let (rest, offset, head) : Text × Nat × List Tree :=
    match hashbang? source with
    | some (rest, stop) => (rest, stop, [.node .hashbang ⟨0, stop⟩ []])
    | none => (source, 0, [])
  let env : Env := ⟨dialect, { inAsync := isModule, ambient := dialect.ambient }⟩
  let state : State := ⟨Scan.nextToken rest offset, offset, rest, {}, [], false⟩
  match programStatements (parseGoal (nestingBound source.length)) env state with
  | (some statements, final) =>
    if final.notes.defaults.isEmpty && !final.flawed then
      some (.node .program ⟨0, source.byteLength⟩ (head ++ markDirectives statements))
    else none
  | (none, _) => none

/-! ## Modules -/

/-- Whether a statement makes a file a module. -/
def importsOrExports : Label → Bool
  | .importDeclaration | .importEqualsDeclaration | .exportNamedDeclaration
  | .exportDefaultDeclaration | .exportAllDeclaration | .exportAssignment => true
  | _ => false

mutual

/-- Whether `import.meta` stands anywhere in a tree. -/
def usesImportMeta : Tree → Bool
  | .node .metaProperty _ (.node (.identifierName name) _ _ :: _) => name == "import".toList
  | .node _ _ children => anyUsesImportMeta children

def anyUsesImportMeta : List Tree → Bool
  | [] => false
  | t :: ts => usesImportMeta t || anyUsesImportMeta ts

end

/-- Whether a program is a module by what it contains. -/
def isModuleTree (t : Tree) : Bool :=
  t.children.any (fun s => importsOrExports s.label) || usesImportMeta t

/-! ## Exported names -/

mutual

def boundNames : Tree → List Text
  | .node (.bindingIdentifier name) _ _ => [name]
  | .node .bindingProperty _ (_ :: values) => boundNamesIn values
  | .node .assignmentPattern _ (pattern :: _) => boundNames pattern
  | .node .arrayPattern _ items => boundNamesIn items
  | .node .objectPattern _ items => boundNamesIn items
  | .node .bindingRest _ items => boundNamesIn items
  | _ => []

def boundNamesIn : List Tree → List Text
  | [] => []
  | t :: ts => boundNames t ++ boundNamesIn ts

end

/-- The names that an exported declaration or specifier exports. -/
def exportedNames : Tree → List Text
  | .node .exportSpecifier _ [_, .node (.identifierName name) _ _] => [name]
  | .node .exportSpecifier _ [_, .node (.stringLiteral name) _ _] => [name]
  | .node (.variableDeclaration _) _ items =>
    items.flatMap fun t => (t.children.head?.map boundNames).getD []
  | .node (.function _) _ (name :: _) => boundNames name
  | .node .classDefinition _ parts =>
    (parts.find? fun t => !t.label.isDecorator).toList.flatMap boundNames
  | _ => []

mutual

/-- The names that a tree exports, in order. -/
def exportsOf : Tree → List Text
  | .node .exportDefaultDeclaration _ parts => "default".toList :: exportsIn parts
  | .node .exportAllDeclaration _ (.node (.identifierName name) _ _ :: _) => [name]
  | .node .exportAllDeclaration _
      (.node (.stringLiteral name) _ _ :: .node (.stringLiteral _) _ _ :: _) => [name]
  | .node .exportNamedDeclaration _ parts => parts.flatMap exportedNames ++ exportsIn parts
  | .node _ _ children => exportsIn children

def exportsIn : List Tree → List Text
  | [] => []
  | t :: ts => exportsOf t ++ exportsIn ts

end

/-! ## Files -/

/-- What the name of a file says about modules. -/
inductive ModuleKind where
  | isModule | script | byContent
deriving DecidableEq, Repr

/-- Reads a text as a program of that kind. A file that imports or exports is a module, unless its
name says otherwise, so what is only a script although it imports or exports is no program. -/
def program (dialect : Dialect) (kind : ModuleKind) (source : Text) : Option Tree :=
  match kind with
  | .isModule => program? dialect true source
  | .script => program? dialect false source
  | .byContent =>
    let asScript := (program? dialect false source).filter fun t => !isModuleTree t
    match program? dialect true source with
    | some t => if isModuleTree t then some t else asScript
    | none => asScript

/-- Reads a text as a program of that kind. Where there are no types, no name is exported twice. -/
def parse? (dialect : Dialect) (kind : ModuleKind) (source : Text) : Option Tree :=
  (program dialect kind source).filter fun t => dialect.typescript || !hasDuplicate (exportsOf t)

end PureLint.Grammar
