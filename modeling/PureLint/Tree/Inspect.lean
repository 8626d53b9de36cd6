import PureLint.Tree.Render

/-!
# Questions about expressions

What an expression refers to once parentheses and type assertions are stripped: a member, a fresh
array, an object that exists already; and which calls change their object. The names of the methods
and functions in question are tables.
-/

namespace PureLint

/-! ## Tables of names -/

namespace Builtin

def arrayMutators : List String :=
  ["copyWithin", "fill", "pop", "push", "reverse", "shift", "sort", "splice", "unshift"]

/-- Methods that return a fresh array. -/
def newArrayMethods : List String :=
  ["concat", "filter", "flat", "flatMap", "map", "slice", "toReversed", "toSorted", "toSpliced",
    "with"]

def newArrayFunctions : List String :=
  ["Array.from", "Array.of", "Object.entries", "Object.keys", "Object.values"]

/-- Functions of `Object` that change their first argument. -/
def objectMutators : List String :=
  ["assign", "defineProperties", "defineProperty", "setPrototypeOf"]

/-- The read-only forms of the mutable collections. -/
def readonlyForms : List (String × String) :=
  [("Array", "ReadonlyArray"), ("Map", "ReadonlyMap"), ("Set", "ReadonlySet")]

def isIn (names : List String) (t : Text) : Bool := names.contains (String.ofList t)

def readonlyForm? (name : Text) : Option String := readonlyForms.lookup (String.ofList name)

end Builtin

namespace Tree

/-- The first child that is no decorator: the key of a member, or the pattern of a parameter. -/
def firstPart? (t : Tree) : Option Tree := t.children.find? fun c => !c.label.isDecorator

/-! ## Members -/

/-- The expression inside parentheses, type assertions, instantiations and non-null marks. -/
def inner : Tree → Tree
  | .node .parenthesizedExpression _ [e] => inner e
  | .node .asExpression _ (e :: _) => inner e
  | .node .satisfiesExpression _ (e :: _) => inner e
  | .node .instantiationExpression _ (e :: _) => inner e
  | .node .nonNullExpression _ [e] => inner e
  | .node .typeAssertion _ [_, e] => inner e
  | e => e

/-- The expression inside parentheses alone. -/
def withoutParentheses : Tree → Tree
  | .node .parenthesizedExpression _ [e] => withoutParentheses e
  | e => e

/-- The member that an expression is once stripped, also as the whole of a chain. -/
def member? (t : Tree) : Option Tree :=
  match inner t with
  | .node .chainExpression _ [e] => if e.label.isMember then some e else none
  | e => if e.label.isMember then some e else none

/-- The object of a member. -/
def object? (t : Tree) : Option Tree := t.children.head?

/-- The property name of a member, where it is known without running the program. -/
def propertyName? : Tree → Option Text
  | .node .staticMember _ [_, .node (.identifierName name) _ _] => some name
  | .node .computedMember _ [_, .node (.stringLiteral value) _ _] => some value
  | .node .computedMember _ [_, .node .templateLiteral _ pieces] => plainTemplate? pieces
  | .node .computedMember _ [_, .node (.regExpLiteral written) _ _] => some written
  | _ => none

def referenceName? (t : Tree) : Option Text :=
  match (inner t).label with
  | .identifierReference name => some name
  | _ => none

/-! ## Calls -/

/-- The member that is called. -/
def calleeMember? : Tree → Option Tree
  | .node .callExpression _ (callee :: _) => member? callee
  | _ => none

def calleeProperty? (t : Tree) : Option Text := (calleeMember? t).bind propertyName?

/-- The object and property names that are called. -/
def calleePath? (t : Tree) : Option (Text × Text) := do
  let callee ← calleeMember? t
  let property ← propertyName? callee
  let object ← (object? callee).bind referenceName?
  return (object, property)

/-- The arguments of a call. -/
def callArguments : Tree → List Tree
  | .node .callExpression _ (_ :: rest) => rest.filter fun a => !a.label.isTypeArguments
  | _ => []

/-- The method by which a call changes an array. -/
def arrayMutator? (t : Tree) : Option Text :=
  (calleeProperty? t).filter (Builtin.isIn Builtin.arrayMutators)

def isExistingObject (t : Tree) : Bool :=
  match (inner t).label with
  | .identifierReference _ | .thisExpression => true
  | _ => (member? t).isSome

/-- Whether a call changes an existing object given as its first argument. -/
def isObjectMutation (t : Tree) : Bool :=
  match calleePath? t with
  | some (object, function) =>
    object == "Object".toList && Builtin.isIn Builtin.objectMutators function &&
      match callArguments t with
      | first :: _ :: _ =>
        (match first.label with | .spreadElement => false | _ => true) && isExistingObject first
      | _ => false
  | none => false

def returnsNewArray (t : Tree) : Bool :=
  ((calleePath? t).any fun (object, function) =>
    Builtin.isIn Builtin.newArrayFunctions (object ++ '.' :: function)) ||
  (calleeProperty? t).any (Builtin.isIn Builtin.newArrayMethods)

/-- Whether an expression always gives a fresh array. -/
def isNewArray (t : Tree) : Bool :=
  match inner t with
  | .node .arrayExpression _ _ => true
  | .node .newExpression _ (callee :: _) => referenceName? callee == some "Array".toList
  | e@(.node .callExpression _ _) => returnsNewArray e
  | _ => false

def isPromiseReject (t : Tree) : Bool := calleePath? t == some ("Promise".toList, "reject".toList)

/-! ## Targets -/

/-- The target of an assignment or of an update. -/
def target? : Tree → Option Tree
  | .node (.assignmentExpression _) _ (target :: _) => some target
  | .node .updateExpression _ (target :: _) => some target
  | _ => none

def isMemberTarget (t : Tree) : Bool := t.label.isMember

def isThisMemberTarget (t : Tree) : Bool :=
  t.label.isMember && t.object?.any fun o =>
    match o.label with | .thisExpression => true | _ => false

end Tree

end PureLint
