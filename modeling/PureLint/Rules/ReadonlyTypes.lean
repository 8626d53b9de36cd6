import PureLint.Rule.Definition
import PureLint.Tree.Inspect

/-!
# Rules about readonly types

`preferReadonlyType` reports arrays, tuples, collections and properties that may be changed, and
mends them by `readonly` or by the read-only form of the collection. `noMethodSignature` reports
methods in types, which may be replaced unlike readonly properties.
-/

namespace PureLint.Rules

open Json.Shape (FieldShape flag)

namespace PreferReadonlyType

structure Options where
  allowLocalMutation : Bool := false
  /-- Allow mutable types in what a function returns. -/
  allowMutableReturnType : Bool := false
  ignoreClass : IgnoreClass := .off
  ignoreInterface : Bool := false
  /-- Leave arrays, tuples and collections alone. -/
  ignoreCollections : Bool := false
  ignorePattern : OneOrMany := .none

def fields : List (FieldShape Options) :=
  [.of "allowLocalMutation" flag fun v o => { o with allowLocalMutation := v },
   .of "allowMutableReturnType" flag fun v o => { o with allowMutableReturnType := v },
   .of "ignoreClass" IgnoreClass.ofJson fun v o => { o with ignoreClass := v },
   .of "ignoreInterface" flag fun v o => { o with ignoreInterface := v },
   .of "ignoreCollections" flag fun v o => { o with ignoreCollections := v },
   .of "ignorePattern" OneOrMany.ofJson fun v o => { o with ignorePattern := v }]

def ignore (o : Options) : Option IgnoreSettings :=
  some
    { allowLocalMutation := o.allowLocalMutation
      ignorePattern := o.ignorePattern.toList
      ignoreClass := o.ignoreClass
      ignoreInterface := o.ignoreInterface }

/-- Types and properties, and the declarations that hide their types when they are ignored. -/
def runsOn : Label → Bool
  | .arrayType | .tupleType | .typeReference | .indexSignature .. | .propertySignature _
  | .propertyDefinition .. | .formalParameter .. | .variableDeclarator | .typeAliasDeclaration
  | .interfaceDeclaration => true
  | _ => false

/-- Whether a type stands right behind `readonly`. -/
def isReadonlyOperand (s : Site) : Bool :=
  match s.parentLabel? with
  | some (.typeOperator .readonly) => true
  | _ => false

/-- Whether a site is in a return type where mutable types are allowed. -/
def isAllowedReturn (o : Options) (s : Site) : Bool := o.allowMutableReturnType && s.inReturnType

def insertReadonly (pos : Nat) : Fix := Fix.insert pos "readonly ".toList

/-- The report of a type. -/
def checkType (o : Options) (s : Site) : Option Diagnostic :=
  if o.ignoreCollections || isAllowedReturn o s then none
  else
    match s.tree with
    | .node .arrayType span _ =>
      if isReadonlyOperand s then none
      else
        some { Diagnostic.plain "prefer-readonly-type" "array" span
          "Only readonly arrays allowed." with fixes := [insertReadonly span.start] }
    | .node .tupleType span _ =>
      if isReadonlyOperand s then none
      else
        some { Diagnostic.plain "prefer-readonly-type" "tuple" span
          "Only readonly tuples allowed." with fixes := [insertReadonly span.start] }
    | .node .typeReference span (.node (.identifierReference name) nameSpan _ :: _) =>
      (Builtin.readonlyForm? name).map fun form =>
        { Diagnostic.plain "prefer-readonly-type" "type" span "Only readonly types allowed." with
          fixes := [Fix.replace nameSpan form.toList] }
    | _ => none

/-- Where `readonly` goes in a field of a class: before its key, and before the bracket that opens a
computed one. -/
def fieldInsertion (source : Text) (computed : Bool) (span : Span) (keyStart : Nat) : Nat :=
  if computed then
    match Text.rfindByte? '[' (Span.textIn source ⟨span.start, keyStart⟩) with
    | some offset => span.start + offset
    | none => keyStart
  else keyStart

/-- The report of a property, mended at the given byte. -/
def property (span : Span) (fixes : List Fix) : Diagnostic :=
  { Diagnostic.plain "prefer-readonly-type" "property" span "A readonly modifier is required." with
    fixes }

/-- The report of a property. In a signature that is static `readonly` would have to follow
`static`, so nothing is mended there. Of the parameters only those are properties that have a
visibility. -/
def checkProperty (o : Options) (source : Text) (s : Site) : Option Diagnostic :=
  match s.label with
  | .indexSignature isReadonly isStatic =>
    if isReadonly || isAllowedReturn o s then none
    else some (property s.span (if isStatic then [] else [insertReadonly s.span.start]))
  | .propertySignature isReadonly =>
    if isReadonly || isAllowedReturn o s then none
    else some (property s.span [insertReadonly s.span.start])
  | .propertyDefinition computed isReadonly =>
    if isReadonly then none
    else
      s.tree.firstPart?.map fun key =>
        property s.span [insertReadonly (fieldInsertion source computed s.span key.start)]
  | .formalParameter accessible isReadonly =>
    if !accessible || isReadonly then none
    else s.tree.firstPart?.map fun pattern => property s.span [insertReadonly pattern.start]
  | _ => none

def check (o : Options) (source : Text) (s : Site) : CheckResult :=
  match s.label with
  | .arrayType | .tupleType | .typeReference => .ofOption (checkType o s)
  | _ => .ofOption (checkProperty o source s)

end PreferReadonlyType

/-- Readonly arrays, tuples, collections and properties only. -/
def preferReadonlyType : Definition where
  name := "prefer-readonly-type"
  category := .noMutations
  Options := PreferReadonlyType.Options
  optionsName := "PreferReadonlyTypeOptions"
  fields := PreferReadonlyType.fields
  defaults := {}
  ignore := PreferReadonlyType.ignore
  skipIgnoredSubtree := true
  runsOn := fun _ => PreferReadonlyType.runsOn
  check := PreferReadonlyType.check

namespace NoMethodSignature

structure Options where
  /-- Leave methods alone that are in an argument of `Readonly`. -/
  ignoreIfReadonly : Bool := true

def fields : List (FieldShape Options) :=
  [.of "ignoreIfReadonly" flag fun v o => { o with ignoreIfReadonly := v }]

def runsOn : Label → Bool
  | .methodSignature => true
  | _ => false

def check (o : Options) (_source : Text) (s : Site) : CheckResult :=
  if !runsOn s.label || (o.ignoreIfReadonly && s.inReadonlyType) then .none
  else
    .report
      { rule := "no-method-signature"
        id := "generic"
        span := s.span
        message :=
          "Method signature is mutable, use property signature with readonly modifier instead."
        help := some "Write `readonly name: (args) => Result` instead." }

end NoMethodSignature

/-- No methods in types. -/
def noMethodSignature : Definition where
  name := "no-method-signature"
  category := .noMutations
  Options := NoMethodSignature.Options
  optionsName := "NoMethodSignatureOptions"
  fields := NoMethodSignature.fields
  defaults := {}
  runsOn := fun _ => NoMethodSignature.runsOn
  check := NoMethodSignature.check

end PureLint.Rules
