import PureLint.Tree.Label

/-!
# Syntax trees

A node has a label, the span of the source it was read from and its children in visiting order,
which is the order of the source with few exceptions. The position of a child says what it is: the
operand, object or callee of an expression comes first, the key of a member follows its decorators.
-/

namespace PureLint

inductive Tree where
  | node (label : Label) (span : Span) (children : List Tree)
deriving Repr

instance : Inhabited Tree := ⟨.node .emptyStatement ⟨0, 0⟩ []⟩

namespace Tree

def label : Tree → Label
  | node l _ _ => l

def span : Tree → Span
  | node _ s _ => s

def children : Tree → List Tree
  | node _ _ cs => cs

/-- The first byte of the root. -/
def start (t : Tree) : Nat := t.span.start

/-- The byte after the root. -/
def stop (t : Tree) : Nat := t.span.stop

def childWhere? (p : Label → Bool) (t : Tree) : Option Tree := t.children.find? fun c => p c.label

def name? (t : Tree) : Option Text :=
  match t.label with
  | .identifierName n | .identifierReference n | .bindingIdentifier n | .labelIdentifier n => some n
  | _ => none

end Tree

namespace Label

def isDecorator : Label → Bool
  | decorator => true
  | _ => false

def isTypeAscription : Label → Bool
  | typeAscription => true
  | _ => false

def isTypeArguments : Label → Bool
  | typeArguments => true
  | _ => false

def isFormalParameters : Label → Bool
  | formalParameters => true
  | _ => false

def isFormalParameter : Label → Bool
  | formalParameter .. => true
  | _ => false

def isFormalParameterRest : Label → Bool
  | formalParameterRest => true
  | _ => false

def isFunctionBody : Label → Bool
  | functionBody => true
  | _ => false

def isInterfaceBody : Label → Bool
  | interfaceBody => true
  | _ => false

def isBindingIdentifier : Label → Bool
  | bindingIdentifier _ => true
  | _ => false

def isClass : Label → Bool
  | classDefinition => true
  | _ => false

/-- The three kinds of member access. -/
def isMember : Label → Bool
  | staticMember | computedMember | privateMember => true
  | _ => false

end Label

end PureLint
