import PureLint.Tree.Inspect
import PureLint.Tree.Site

/-!
# What surrounds a site

Questions that the nodes above a site answer: whether it is in a function body, a class, an
interface or a return type, which function is nearest, and whether it is a function that is called
where it stands.
-/

namespace PureLint.Site

def inFunctionBody (s : Site) : Bool := s.hasAbove Label.isFunctionBody

def inClass (s : Site) : Bool := s.hasAbove Label.isClass

def inInterfaceBody (s : Site) : Bool := s.hasAbove Label.isInterfaceBody

def isReadonlyReference : Tree → Bool
  | .node .typeReference _ (.node (.identifierReference name) _ _ :: _) => name == "Readonly".toList
  | _ => false

/-- Whether the site is in an argument of `Readonly`. -/
def inReadonlyType (s : Site) : Bool := s.above.any fun n => isReadonlyReference n.tree

def isFunctionLabel : Label → Bool
  | .function _ | .arrowFunction .. => true
  | _ => false

/-- The nearest function around the site. -/
def enclosingFunction? (s : Site) : Option Tree :=
  (s.above.find? fun n => isFunctionLabel n.tree.label).map (·.tree)

/-- Whether the nearest function around the site is asynchronous. -/
def inAsyncFunction (s : Site) : Bool :=
  match s.enclosingFunction? with
  | some (.node (.function isAsync) _ _) => isAsync
  | some (.node (.arrowFunction isAsync _) _ _) => isAsync
  | _ => false

/-- Whether the type written right below such a node is a return type. -/
def hasReturnType : Label → Bool
  | .function _ | .arrowFunction .. | .methodSignature | .functionType | .callSignature => true
  | _ => false

/-- Whether the nearest written type around a place, given the nodes above it, is a return type. -/
def returnTypeAbove : List Node → Bool
  | [] => false
  | n :: rest =>
    if n.tree.label.isTypeAscription then rest.head?.any fun p => hasReturnType p.tree.label
    else returnTypeAbove rest

def inReturnType (s : Site) : Bool := returnTypeAbove s.above

def isParentheses : Label → Bool
  | .parenthesizedExpression => true
  | _ => false

/-- Whether a function with that span is called where it stands, given the nodes above it.
Parentheses around the function are looked through. -/
def calledAbove (span : Span) (above : List Node) : Bool :=
  match above.find? fun n => !isParentheses n.tree.label with
  | some ⟨_, .node .callExpression _ (callee :: _)⟩ => callee.inner.span == span
  | _ => false

/-- Whether the node at the site is called where it stands. -/
def isImmediatelyCalled (s : Site) : Bool := calledAbove s.span s.above

/-- Whether the site is in the head of a loop, or its body. -/
def isLoopPart (s : Site) : Bool :=
  match s.parentLabel? with
  | some .forStatement | some .forInStatement | some .forOfStatement => true
  | _ => false

/-- Whether the site is the value of an arrow function without braces. -/
def isConciseBody (s : Site) : Bool :=
  match s.above with
  | ⟨_, .node .functionBody _ _⟩ :: ⟨_, .node (.arrowFunction _ concise) _ _⟩ :: _ => concise
  | _ => false

end PureLint.Site
