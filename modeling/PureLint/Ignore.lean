import PureLint.Options
import PureLint.Surroundings

/-!
# What a rule ignores

Before a rule looks at a site its ignore options are asked. Some look at what surrounds the site,
the others at its texts: most nodes have one, a declaration of variables has one for each, and a
type has those of the node it is written for.
-/

namespace PureLint.Ignore

/-! ## Texts of a site -/

/-- The name that a declaration gives, if it has one. -/
def declaredName (t : Tree) : List Text :=
  match t.childWhere? Label.isBindingIdentifier with
  | some c => c.name?.toList
  | none => []

/-- Whether a node has the texts of the node above it. -/
def borrows : Label → Bool
  | .arrayType | .tupleType | .indexSignature .. | .typeAscription | .typeLiteral | .typeReference
  | .typeOperator _ | .unionType | .intersectionType | .parenthesizedType | .typeArguments
  | .namedTupleMember | .optionalType | .restType => true
  | _ => false

/-- The texts that a node has by itself. -/
def ownTexts (source : Text) (t : Tree) : List Text :=
  match t with
  | .node (.identifierReference name) _ _ | .node (.bindingIdentifier name) _ _
  | .node (.identifierName name) _ _ => [name]
  | .node (.variableDeclaration _) _ declarators =>
    declarators.filterMap fun d => d.children.head?.map (Tree.bindingText source)
  | .node .variableDeclarator _ (pattern :: _) => [pattern.bindingText source]
  | .node (.formalParameter ..) _ _ => (t.firstPart?.map (Tree.bindingText source)).toList
  | .node (.function _) _ _ | .node .classDefinition _ _ | .node .interfaceDeclaration _ _
  | .node .typeAliasDeclaration _ _ => declaredName t
  | .node (.propertyDefinition ..) _ _ | .node (.methodDefinition _) _ _ =>
    (t.firstPart?.map (Tree.keyText source)).toList
  | .node (.objectProperty _) _ (key :: _) | .node (.propertySignature _) _ (key :: _)
  | .node .methodSignature _ (key :: _) => [key.keyText source]
  | .node (.assignmentExpression _) _ (target :: _) => [target.targetText source]
  | .node .staticMember _ _ | .node .computedMember _ _ | .node .privateMember _ _ =>
    [t.expressionText source]
  | .node .thisExpression _ _ => ["this".toList]
  | .node (.unaryExpression _) _ (operand :: _) => [operand.expressionText source]
  | .node .updateExpression _ (target :: _) => [target.updateTargetText source]
  | .node .callExpression _ (callee :: _) => [callee.expressionText source]
  | .node .expressionStatement span _ => [span.textIn source]
  | _ => []

/-- The texts of a tree below the given nodes. -/
def textsBelow (source : Text) (t : Tree) : List Node → List Text
  | [] => if borrows t.label then [] else ownTexts source t
  | n :: rest => if borrows t.label then textsBelow source n.tree rest else ownTexts source t

/-- The texts of a site. -/
def identifierTexts (source : Text) (s : Site) : List Text := textsBelow source s.tree s.above

/-! ## Beginnings and endings -/

/-- The path without its last segment: `a.b.c` gives `a.b`, and `a.b[0]` gives `a.b`. -/
def objectPath? (t : Text) : Option Text :=
  if t.endsWith [']'] then (Text.beforeLast? '[' t).filter fun p => !p.isEmpty
  else Text.beforeLast? '.' t

/-- Whether an object on the way to a path begins or ends as the options say, looking at most `n`
times. -/
def objectMatches (o : IgnoreOptions) : Nat → Text → Bool
  | 0, _ => false
  | n + 1, t =>
    match objectPath? t with
    | some object => o.matchesAffix object || objectMatches o n object
    | none => false

/-- Whether the text of a node is a path through objects. -/
def isAccess : Label → Bool
  | .assignmentExpression _ | .updateExpression | .unaryExpression _ | .callExpression
  | .staticMember | .computedMember | .privateMember => true
  | _ => false

/-- Whether a text, or for a path an object on the way, begins or ends as the options say. -/
def ignoredByAffix (o : IgnoreOptions) (label : Label) (t : Text) : Bool :=
  o.matchesAffix t || (isAccess label && objectMatches o t.length t)

/-! ## The decision -/

/-- Whether a site is a field of a class, or assigns to a member of `this` in one. -/
def isFieldMutation (s : Site) : Bool :=
  match s.tree with
  | .node (.propertyDefinition ..) _ _ => true
  | .node (.assignmentExpression _) _ (target :: _) => target.isThisMemberTarget && s.inClass
  | _ => false

/-- Whether what surrounds a site is ignored. -/
def ignoredByPlace (o : IgnoreOptions) (s : Site) : Bool :=
  (o.allowLocalMutation && s.inFunctionBody) ||
    (match o.ignoreClass with
      | .all => s.inClass
      | .fieldsOnly => isFieldMutation s
      | .off => false) ||
    (o.ignoreInterface && s.inInterfaceBody)

/-- Whether every text of a site is ignored for the same reason. -/
def ignoredByText (source : Text) (o : IgnoreOptions) (s : Site) : Bool :=
  o.hasTextMatchers &&
    let texts := identifierTexts source s
    !texts.isEmpty &&
      (texts.all o.matchesPattern || texts.all o.matchesAccessor ||
        texts.all (ignoredByAffix o s.label))

/-- Whether the options exempt a site. -/
def shouldIgnore (source : Text) (o : IgnoreOptions) (s : Site) : Bool :=
  ignoredByPlace o s || ignoredByText source o s

end PureLint.Ignore
