import PureLint.Rule.Definition
import PureLint.Tree.Inspect

/-!
# Rules against mutation

`immutableData` reports what changes an object or an array that exists already, and `noLet` reports
variables that may be assigned again.
-/

namespace PureLint.Rules

open Json.Shape (FieldShape flag)

namespace ImmutableData

structure Options where
  ignorePattern : OneOrMany := .none
  ignoreAccessorPattern : OneOrMany := .none
  ignoreClass : IgnoreClass := .off
  /-- Allow changing an array that the same expression has made. -/
  ignoreImmediateMutation : Bool := true

def fields : List (FieldShape Options) :=
  [.of "ignorePattern" OneOrMany.ofJson fun v o => { o with ignorePattern := v },
   .of "ignoreAccessorPattern" OneOrMany.ofJson fun v o => { o with ignoreAccessorPattern := v },
   .of "ignoreClass" IgnoreClass.ofJson fun v o => { o with ignoreClass := v },
   .of "ignoreImmediateMutation" flag fun v o => { o with ignoreImmediateMutation := v },
   -- Any value is accepted, and types are always taken from what is written.
   .of "assumeTypes" (fun _ => .ok ()) fun _ o => o]

def ignore (o : Options) : Option IgnoreSettings :=
  some
    { ignorePattern := o.ignorePattern.toList
      ignoreAccessorPattern := o.ignoreAccessorPattern.toList
      ignoreClass := o.ignoreClass }

/-- The expressions that may change something. -/
def runsOn : Label → Bool
  | .assignmentExpression _ | .unaryExpression _ | .updateExpression | .callExpression => true
  | _ => false

/-- The kinds of mutation. -/
inductive Mutation where
  | member | object | array
deriving DecidableEq, Repr

/-- Whether the object of the called member is a fresh array. -/
def mutatesNewArray (call : Tree) : Bool :=
  (call.calleeMember?.bind Tree.object?).any Tree.isNewArray

/-- The mutation that an expression makes. -/
def mutation? (o : Options) (t : Tree) : Option Mutation :=
  match t with
  | .node (.assignmentExpression _) _ (target :: _) =>
    if target.isMemberTarget then some .member else none
  | .node (.unaryExpression .delete) _ (operand :: _) =>
    if operand.member?.isSome then some .member else none
  | .node .updateExpression _ (target :: _) => if target.isMemberTarget then some .member else none
  | .node .callExpression _ _ =>
    if t.arrayMutator?.isSome then
      if o.ignoreImmediateMutation && mutatesNewArray t then none else some .array
    else if t.isObjectMutation then some .object
    else none
  | _ => none

def report (span : Span) : Mutation → Diagnostic
  | .member =>
    .plain "immutable-data" "generic" span "Modifying an existing object/array is not allowed."
  | .object =>
    .plain "immutable-data" "object" span "Modifying properties of existing object not allowed."
  | .array => .plain "immutable-data" "array" span "Modifying an array is not allowed."

def check (o : Options) (_source : Text) (s : Site) : CheckResult :=
  .ofOption ((mutation? o s.tree).map (report s.span))

end ImmutableData

/-- No changing of objects and arrays. -/
def immutableData : Definition where
  name := "immutable-data"
  category := .noMutations
  Options := ImmutableData.Options
  optionsName := "ImmutableDataOptions"
  fields := ImmutableData.fields
  defaults := {}
  ignore := ImmutableData.ignore
  runsOn := fun _ => ImmutableData.runsOn
  check := ImmutableData.check

namespace NoLet

structure Options where
  /-- Allow variables of loops. -/
  allowInForLoopInit : Bool := false
  allowLocalMutation : Bool := false
  ignorePattern : OneOrMany := .none

def fields : List (FieldShape Options) :=
  [.of "allowInForLoopInit" flag fun v o => { o with allowInForLoopInit := v },
   .of "allowLocalMutation" flag fun v o => { o with allowLocalMutation := v },
   .of "ignorePattern" OneOrMany.ofJson fun v o => { o with ignorePattern := v }]

def ignore (o : Options) : Option IgnoreSettings :=
  some { allowLocalMutation := o.allowLocalMutation, ignorePattern := o.ignorePattern.toList }

def runsOn : Label → Bool
  | .variableDeclaration .letBinding => true
  | _ => false

def hasValue : Tree → Bool
  | .node .variableDeclarator _ (_ :: rest) => rest.any fun c => !c.label.isTypeAscription
  | _ => false

/-- Whether the variables of a declaration get no other value as far as the syntax says: the loop
gives each round its own, or every variable has a value and no loop counts it. -/
def canBeConst (s : Site) : Bool :=
  match s.parentLabel? with
  | some .forInStatement | some .forOfStatement => true
  | _ => !s.isLoopPart && s.tree.children.all hasValue

/-- The offer to declare a constant instead. -/
def suggestion? (source : Text) (s : Site) : Option Suggestion :=
  (Text.findByte? "let".toList (s.span.textIn source)).map fun offset =>
    let start := s.span.start + offset
    { id := "replaceWithConst"
      message := "Replace `let` with `const`."
      fixes := [Fix.replace ⟨start, start + 3⟩ "const".toList] }

def check (o : Options) (source : Text) (s : Site) : CheckResult :=
  match s.label with
  | .variableDeclaration _ =>
    if s.isLoopPart && o.allowInForLoopInit then .none
    else
      .report
        { rule := "no-let"
          id := "generic"
          span := s.span
          message := "Unexpected let, use const instead."
          suggestions := if canBeConst s then (suggestion? source s).toList else [] }
  | _ => .none

end NoLet

/-- No variables that may be assigned again. -/
def noLet : Definition where
  name := "no-let"
  category := .noMutations
  Options := NoLet.Options
  optionsName := "NoLetOptions"
  fields := NoLet.fields
  defaults := {}
  ignore := NoLet.ignore
  runsOn := fun _ => NoLet.runsOn
  check := NoLet.check

end PureLint.Rules
