import PureLint.Number.Shortest
import PureLint.Tree.Basic

/-!
# Texts of nodes

Patterns in the options of a rule are matched against the text of a node: names and accesses are
written without the parentheses, assertions and calls around them, and anything else as it stands in
the source.
-/

namespace PureLint.Tree

variable (source : Text)

/-- The text of an expression. Members are written with their object, and calls, unary operators,
parentheses, assertions and chains are looked through. -/
def expressionText : Tree → Text
  | .node (.identifierReference name) _ _ => name
  | .node .thisExpression _ _ => "this".toList
  | .node .super _ _ => "super".toList
  | .node .staticMember _ [object, .node (.identifierName name) _ _] =>
    expressionText object ++ '.' :: name
  | .node .computedMember _ [object, index] =>
    expressionText object ++ '[' :: index.span.textIn source ++ [']']
  | .node .privateMember _ [object, .node (.privateIdentifier name) _ _] =>
    expressionText object ++ '.' :: '#' :: name
  | .node .callExpression _ (callee :: _) => expressionText callee
  | .node (.unaryExpression _) _ [e] => expressionText e
  | .node .parenthesizedExpression _ [e] => expressionText e
  | .node .nonNullExpression _ [e] => expressionText e
  | .node .asExpression _ (e :: _) => expressionText e
  | .node .satisfiesExpression _ (e :: _) => expressionText e
  | .node .chainExpression _ [e] => expressionText e
  | t => t.span.textIn source

/-- The text of the target of an assignment. Assertions around it are looked through. -/
def targetText (t : Tree) : Text :=
  match t with
  | .node (.identifierReference _) _ _ | .node .staticMember _ _ | .node .computedMember _ _
  | .node .privateMember _ _ | .node .nonNullExpression _ _ | .node .asExpression _ _
  | .node .satisfiesExpression _ _ => expressionText source t
  | _ => t.span.textIn source

/-- The text of what is counted up or down. -/
def updateTargetText (t : Tree) : Text :=
  match t with
  | .node (.identifierReference _) _ _ | .node .staticMember _ _ | .node .computedMember _ _
  | .node .privateMember _ _ => expressionText source t
  | _ => t.span.textIn source

def plainTemplate? : List Tree → Option Text
  | [.node (.templateElement cooked) _ _] => cooked
  | _ => none

/-- A regular expression with its flags in alphabetical order. -/
def regExpText (written : Text) : Text :=
  match Text.beforeLast? '/' written with
  | some body => body ++ '/' :: (written.drop (body.length + 1)).mergeSort (fun a b => a ≤ b)
  | none => written

/-- The name that a key has without running the program. -/
def staticKeyName? : Tree → Option Text
  | .node (.identifierName name) _ _ => some name
  | .node (.stringLiteral value) _ _ => some value
  | .node (.numericLiteral value) _ _ => some value.plain
  | .node (.bigIntLiteral value) _ _ => some (toString value).toList
  | .node .nullLiteral _ _ => some "null".toList
  | .node (.regExpLiteral written) _ _ => some (regExpText written)
  | .node .templateLiteral _ pieces => plainTemplate? pieces
  | _ => none

def keyText (t : Tree) : Text :=
  match t with
  | .node (.privateIdentifier name) _ _ => '#' :: name
  | _ => (staticKeyName? t).getD (t.span.textIn source)

/-- The name that a pattern binds, also one with a default. -/
def boundName? : Tree → Option Text
  | .node (.bindingIdentifier name) _ _ => some name
  | .node .assignmentPattern _ (pattern :: _) => boundName? pattern
  | _ => none

/-- The text of a pattern: the name it binds, or the pattern as it is written. -/
def bindingText (t : Tree) : Text := (boundName? t).getD (t.span.textIn source)

end PureLint.Tree
