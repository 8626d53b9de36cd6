import PureLint.Rule.Definition

/-!
# Rules against object orientation

`noMixedType` reports types that hold both data and functions, `noThisExpression` and `noClass`
report just that.
-/

namespace PureLint.Rules

open Json.Shape (FieldShape flag)

namespace NoMixedType

structure Options where
  checkInterfaces : Bool := true
  checkTypeLiterals : Bool := true

def fields : List (FieldShape Options) :=
  [.of "checkInterfaces" flag fun v o => { o with checkInterfaces := v },
   .of "checkTypeLiterals" flag fun v o => { o with checkTypeLiterals := v }]

/-- The declarations that the options name. -/
def runsOn (o : Options) : Label → Bool
  | .interfaceDeclaration => o.checkInterfaces
  | .typeAliasDeclaration => o.checkTypeLiterals
  | _ => false

/-- Whether a written type is directly that of a function. -/
def isFunctionAscription : Tree → Bool
  | .node .typeAscription _ (.node .functionType _ _ :: _) => true
  | _ => false

/-- Whether a member of a type can be called: a method, or a property with the type of a
function. -/
def isCallable : Tree → Bool
  | .node .methodSignature _ _ => true
  | .node (.propertySignature _) _ parts => parts.any isFunctionAscription
  | _ => false

/-- Whether a member of a type holds data. -/
def isData : Tree → Bool
  | .node (.propertySignature _) _ parts => !parts.any isFunctionAscription
  | _ => false

/-- Whether some members can be called and others hold data. -/
def isMixed (members : List Tree) : Bool := members.any isCallable && members.any isData

/-- The members of the type that a declaration gives, if it lists them. -/
def members? (t : Tree) : Option (List Tree) :=
  match t with
  | .node .interfaceDeclaration _ parts =>
    (parts.find? fun c => c.label.isInterfaceBody).map (·.children)
  | .node .typeAliasDeclaration _ parts =>
    match parts.getLast? with
    | some (.node .typeLiteral _ members) => some members
    | _ => none
  | _ => none

def check (_o : Options) (_source : Text) (s : Site) : CheckResult :=
  if (members? s.tree).any isMixed then
    .report
      (.plain "no-mixed-type" "generic" s.span "Only the same kind of members allowed in types.")
  else .none

end NoMixedType

/-- No types that hold both data and functions. -/
def noMixedType : Definition where
  name := "no-mixed-type"
  category := .noObjectOrientation
  Options := NoMixedType.Options
  optionsName := "NoMixedTypeOptions"
  fields := NoMixedType.fields
  defaults := {}
  runsOn := NoMixedType.runsOn
  check := NoMixedType.check

namespace NoThisExpression

def runsOn : Label → Bool
  | .thisExpression => true
  | _ => false

def check (s : Site) : CheckResult :=
  if runsOn s.label then
    .report
      (.plain "no-this-expression" "generic" s.span "Unexpected this, use functions not classes.")
  else .none

end NoThisExpression

/-- No `this`. -/
def noThisExpression : Definition where
  name := "no-this-expression"
  category := .noObjectOrientation
  Options := NoOptions
  optionsName := "NoOptions"
  fields := []
  defaults := {}
  runsOn := fun _ => NoThisExpression.runsOn
  check := fun _ _ => NoThisExpression.check

def NoClass.check (s : Site) : CheckResult :=
  if s.label.isClass then
    .report (.plain "no-class" "generic" s.span "Unexpected class, use functions not classes.")
  else .none

/-- No classes. -/
def noClass : Definition where
  name := "no-class"
  category := .noObjectOrientation
  Options := NoOptions
  optionsName := "NoOptions"
  fields := []
  defaults := {}
  runsOn := fun _ => Label.isClass
  check := fun _ _ => NoClass.check

end PureLint.Rules
