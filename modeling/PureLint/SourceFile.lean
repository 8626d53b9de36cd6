import PureLint.Grammar.Program

/-!
# Source files

The name of a file says in which dialect it is written: by the extension behind the last point of
the last part of its path. Any other name, or none, stands for types and markup together.
-/

namespace PureLint

/-- The dialect of a file and what its name says about modules. -/
structure SourceType where
  dialect : Dialect
  moduleKind : Grammar.ModuleKind
deriving DecidableEq, Repr

namespace SourceType

/-- Types and markup, a module if it imports or exports. -/
def default : SourceType := ⟨⟨true, true, false⟩, .byContent⟩

/-- The name of the file that a path leads to: its last part, where empty parts and single points do
not count. A path that ends by going up leads to no file. -/
def fileName? (path : Text) : Option Text :=
  let parts := (Text.splitOn '/' path).filter fun p => !p.isEmpty && p != ['.']
  parts.getLast?.filter (· != ['.', '.'])

/-- The extension of a file name: what follows its last point, unless the name only begins with
one. -/
def extension? (name : Text) : Option Text :=
  match Text.beforeLast? '.' name with
  | some [] => none
  | some stem => some (name.drop (stem.length + 1))
  | none => none

/-- Whether a file only declares: one of the last two parts of its name before the extension is
`d`. -/
def isDeclarationName (name : Text) : Bool :=
  match Text.beforeLast? '.' name with
  | some stem => ((Text.splitOn '.' stem).reverse.take 2).contains ['d']
  | none => false

def ofExtension (extension : Text) (isDeclaration : Bool) : SourceType :=
  if extension == "ts".toList then ⟨⟨true, false, isDeclaration⟩, .byContent⟩
  else if extension == "mts".toList then ⟨⟨true, false, isDeclaration⟩, .isModule⟩
  else if extension == "cts".toList then ⟨⟨true, false, isDeclaration⟩, .script⟩
  else if extension == "tsx".toList then ⟨⟨true, true, false⟩, .byContent⟩
  else if extension == "js".toList then ⟨⟨false, false, false⟩, .byContent⟩
  else if extension == "mjs".toList then ⟨⟨false, false, false⟩, .isModule⟩
  else if extension == "cjs".toList then ⟨⟨false, false, false⟩, .script⟩
  else if extension == "jsx".toList then ⟨⟨false, true, false⟩, .byContent⟩
  else default

def ofPath? (path : Option Text) : SourceType :=
  let found := do
    let name ← fileName? (← path)
    let extension ← extension? name
    return ofExtension extension (isDeclarationName name)
  found.getD default

end SourceType

/-- A text with the tree that was read from it. -/
structure SourceFile where
  source : Text
  sourceType : SourceType
  tree : Tree

namespace SourceFile

/-- Reads a text; `none` where it is no program of its dialect. -/
def parse? (source : Text) (path : Option Text) : Option SourceFile :=
  let sourceType := SourceType.ofPath? path
  (Grammar.parse? sourceType.dialect sourceType.moduleKind source).map fun t =>
    ⟨source, sourceType, t⟩

end SourceFile

end PureLint
