import PureLint.Ignore
import PureLint.Rule
import PureLint.SourceFile

/-!
# Surveys

What the rules know about the nodes and expressions of a program, listed for someone who writes
options or rules: the texts that patterns are matched against, what surrounds a node, and what an
expression refers to.
-/

namespace PureLint.Survey

def sitesOf (kinds : List Text) (t : Tree) : List Site :=
  t.sites.filter fun s => kinds.contains s.label.kindName.toList

/-! ## Nodes -/

/-- Questions about a site that are answered by yes or no. -/
inductive Flag where
  | ignored | inFunctionBody | inClass | inInterfaceBody | inReadonlyType | inAsyncFunction
      | inReturnType
  | immediatelyCalled | loopPart | conciseBody
deriving DecidableEq, Repr

def Flag.all : List Flag :=
  [ignored, inFunctionBody, inClass, inInterfaceBody, inReadonlyType, inAsyncFunction, inReturnType,
    immediatelyCalled, loopPart, conciseBody]

def Flag.holds (source : Text) (o : IgnoreOptions) (s : Site) : Flag → Bool
  | ignored => Ignore.shouldIgnore source o s
  | inFunctionBody => s.inFunctionBody
  | inClass => s.inClass
  | inInterfaceBody => s.inInterfaceBody
  | inReadonlyType => s.inReadonlyType
  | inAsyncFunction => s.inAsyncFunction
  | inReturnType => s.inReturnType
  | immediatelyCalled => s.isImmediatelyCalled
  | loopPart => s.isLoopPart
  | conciseBody => s.isConciseBody

structure NodeFacts where
  kind : String
  span : Span
  texts : List Text
  /-- The questions with the answer yes. -/
  flags : List Flag
  /-- The kind and span of the nearest function around the node. -/
  function : Option (String × Span)

def nodeFacts (source : Text) (o : IgnoreOptions) (s : Site) : NodeFacts where
  kind := s.label.kindName
  span := s.span
  texts := Ignore.identifierTexts source s
  flags := Flag.all.filter (Flag.holds source o s)
  function := s.enclosingFunction?.map fun t => (t.label.kindName, t.span)

def nodes (file : SourceFile) (o : IgnoreOptions) (kinds : List Text) : List NodeFacts :=
  (sitesOf kinds file.tree).map (nodeFacts file.source o)

/-! ## Expressions -/

structure CallFacts where
  path : Option (Text × Text)
  arrayMutator : Option Text
  objectMutator : Bool
  promiseReject : Bool
  hasMember : Bool

inductive FormFacts where
  | call (facts : CallFacts)
  | assignment (target : Text) (isMember isThisMember : Bool)
  | update (target : Text) (isMember : Bool)
  | objectLiteral (keys : List Text)
  | arrow (parameters : List Text)
  | other

structure ExpressionFacts where
  text : Text
  newArray : Bool
  existingObject : Bool
  form : FormFacts

def callFacts (call : Tree) : CallFacts where
  path := call.calleePath?
  arrayMutator := call.arrayMutator?
  objectMutator := call.isObjectMutation
  promiseReject := call.isPromiseReject
  hasMember := call.calleeMember?.isSome

/-- The text of the key of a property in an object literal. -/
def propertyKey? (source : Text) : Tree → Option Text
  | .node (.objectProperty _) _ (key :: _) => some (key.keyText source)
  | _ => none

/-- The text of a parameter, unless it takes the rest. -/
def parameterText? (source : Text) (p : Tree) : Option Text :=
  if p.label.isFormalParameter then p.firstPart?.map (Tree.bindingText source) else none

def parameterTexts (source : Text) (t : Tree) : List Text :=
  match t.childWhere? Label.isFormalParameters with
  | some ps => ps.children.filterMap (parameterText? source)
  | none => []

/-- What is known about the form of an expression without parentheses around it. -/
def formFacts (source : Text) (t : Tree) : FormFacts :=
  match t with
  | .node .callExpression _ _ => .call (callFacts t)
  | .node .chainExpression _ [.node .callExpression span parts] =>
    .call (callFacts (.node .callExpression span parts))
  | .node (.assignmentExpression _) _ (target :: _) =>
    .assignment (target.targetText source) target.isMemberTarget target.isThisMemberTarget
  | .node .updateExpression _ (target :: _) =>
    .update (target.updateTargetText source) target.isMemberTarget
  | .node .objectExpression _ properties =>
    .objectLiteral (properties.filterMap (propertyKey? source))
  | .node (.arrowFunction ..) _ _ => .arrow (parameterTexts source t)
  | _ => .other

def expressionFacts (source : Text) (e : Tree) : ExpressionFacts where
  text := e.expressionText source
  newArray := e.isNewArray
  existingObject := e.isExistingObject
  form := formFacts source e.withoutParentheses

/-- The expression of a statement that is one. -/
def statementExpression? : Tree → Option Tree
  | .node .expressionStatement _ (e :: _) => some e
  | _ => none

/-- What is known about the expressions at the top of a program. -/
def expressions (file : SourceFile) : List ExpressionFacts :=
  (file.tree.children.filterMap statementExpression?).map (expressionFacts file.source)

/-! ## Checks -/

/-- What a rule says about a node, whether it would be shown it or not. -/
structure CheckFacts where
  kind : String
  span : Span
  runsOn : Bool
  result : CheckResult

def checks (file : SourceFile) (r : Rule) (kinds : List Text) : List CheckFacts :=
  (sitesOf kinds file.tree).map fun s =>
    ⟨s.label.kindName, s.span, r.runsOn s.tree, r.check file.source s⟩

end PureLint.Survey
