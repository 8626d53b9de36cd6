import PureLint.Tree.Basic

/-!
# Targets of assignments

What stands to the left of an assignment is read as an expression first. Here it becomes a target:
names and members as they are, parentheses around them dropped, array and object literals as
destructuring patterns. `none` means that nothing can be assigned to the expression.
-/

namespace PureLint.Grammar

/-- What was seen in array and object literals that only matters if they turn out to be patterns, by
where it starts. -/
structure LiteralNotes where
  /-- Shorthand properties with a value, which only a pattern may have. -/
  defaults : List Nat := []
  /-- Spreads with a comma behind them, which no pattern may have. -/
  followedSpreads : List Nat := []

def isNameOrMember (e : Tree) : Bool :=
  match e.label with
  | .identifierReference _ | .staticMember | .computedMember | .privateMember => true
  | _ => false

/-- Whether a name or a member stands inside parentheses, assertions and type arguments. -/
def holdsNameOrMember : Tree → Bool
  | .node .parenthesizedExpression _ [e] => holdsNameOrMember e
  | .node .asExpression _ (e :: _) => holdsNameOrMember e
  | .node .satisfiesExpression _ (e :: _) => holdsNameOrMember e
  | .node .nonNullExpression _ [e] => holdsNameOrMember e
  | .node .typeAssertion _ [_, e] => holdsNameOrMember e
  | .node .instantiationExpression _ (e :: _) => holdsNameOrMember e
  | e => isNameOrMember e

/-- Whether an expression can be assigned to as it stands: a name, a member, or an assertion about
one of them. -/
def isAssignable (e : Tree) : Bool :=
  match e.label with
  | .asExpression | .satisfiesExpression | .nonNullExpression | .typeAssertion =>
    holdsNameOrMember e
  | _ => isNameOrMember e

/-- A target that is no pattern. -/
def simpleTarget? : Tree → Option Tree
  | .node .parenthesizedExpression _ [e] => simpleTarget? e
  | e => if isAssignable e then some e else none

mutual

def assignmentTarget? (notes : LiteralNotes) : Tree → Option Tree
  | .node .arrayExpression span items => (elementTargets? notes items).map (.node .arrayTarget span)
  | .node .objectExpression span items =>
    (propertyTargets? notes items).map (.node .objectTarget span)
  | .node .arrayTarget span items => some (.node .arrayTarget span items)
  | .node .objectTarget span items => some (.node .objectTarget span items)
  | e => simpleTarget? e

/-- The elements of an array pattern. The rest comes last. -/
def elementTargets? (notes : LiteralNotes) : List Tree → Option (List Tree)
  | [] => some []
  | [.node .spreadElement span [e]] =>
    if notes.followedSpreads.contains span.start then none
    else (assignmentTarget? notes e).map fun t => [.node .targetRest span [t]]
  | .node .elision _ _ :: rest => elementTargets? notes rest
  | .node (.assignmentExpression true) span [target, value] :: rest =>
    (elementTargets? notes rest).map (.node .targetWithDefault span [target, value] :: ·)
  | e :: rest =>
    match assignmentTarget? notes e, elementTargets? notes rest with
    | some t, some ts => some (t :: ts)
    | _, _ => none

/-- The properties of an object pattern. The rest comes last, and is no pattern itself. -/
def propertyTargets? (notes : LiteralNotes) : List Tree → Option (List Tree)
  | [] => some []
  | [.node .spreadElement span [e]] =>
    if notes.followedSpreads.contains span.start then none
    else (simpleTarget? e).map fun t => [.node .targetRest span [t]]
  | .node (.objectProperty .init) span
      [key, .node (.assignmentExpression true) valueSpan [target, value]] ::
      rest =>
    match propertyTargets? notes rest with
    | none => none
    | some ts =>
      if notes.defaults.contains span.start then
        some (.node .targetShorthand span [target, value] :: ts)
      else some
        (.node .targetProperty span [key, .node .targetWithDefault valueSpan [target, value]] :: ts)
  | .node (.objectProperty .init) span [key, e] :: rest =>
    match assignmentTarget? notes e, propertyTargets? notes rest with
    | some t, some ts =>
      if key.span = e.span then some (.node .targetShorthand span [t] :: ts)
      else some (.node .targetProperty span [key, t] :: ts)
    | _, _ => none
  | _ => none

end

mutual

/-- Where the shorthand properties of a target start. What stands in defaults and keys is no part of
the pattern. -/
def shorthandStarts : Tree → List Nat
  | .node .targetShorthand span _ => [span.start]
  | .node .targetProperty _ (_ :: targets) => shorthandStartsIn targets
  | .node .targetWithDefault _ (target :: _) => shorthandStarts target
  | .node .arrayTarget _ items => shorthandStartsIn items
  | .node .objectTarget _ items => shorthandStartsIn items
  | .node .targetRest _ items => shorthandStartsIn items
  | _ => []

/-- Where the shorthand properties of several targets start. -/
def shorthandStartsIn : List Tree → List Nat
  | [] => []
  | t :: ts => shorthandStarts t ++ shorthandStartsIn ts

end

end PureLint.Grammar
