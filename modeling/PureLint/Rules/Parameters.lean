import PureLint.Rule.Definition

/-!
# A rule about parameters

`functionalParameters` asks for the parameters that a curried function has: at least or exactly one,
none that takes the rest, and no use of `arguments`.
-/

namespace PureLint.Rules

open Json.Shape (FieldShape flag)

namespace FunctionalParameters

structure Options where
  allowRestParameter : Bool := false
  allowArgumentsKeyword : Bool := false
  enforceParameterCount : Option EnforceCount := some {}
  ignorePattern : OneOrMany := .none

def fields : List (FieldShape Options) :=
  [.of "allowRestParameter" flag fun v o => { o with allowRestParameter := v },
   .of "allowArgumentsKeyword" flag fun v o => { o with allowArgumentsKeyword := v },
   .of "enforceParameterCount" EnforceCount.ofJson fun v o => { o with enforceParameterCount := v },
   .of "ignorePattern" OneOrMany.ofJson fun v o => { o with ignorePattern := v }]

def ignore (o : Options) : Option IgnoreSettings :=
  some { ignorePattern := o.ignorePattern.toList }

/-- Functions, and uses of `arguments` unless they are allowed. -/
def runsOn (o : Options) : Label → Bool
  | .function _ | .arrowFunction .. => true
  | .identifierReference name => !o.allowArgumentsKeyword && name == "arguments".toList
  | _ => false

def isAccessor (s : Site) : Bool :=
  match s.parentLabel? with
  | some (.methodDefinition .get) | some (.methodDefinition .set) => true
  | some (.objectProperty .get) | some (.objectProperty .set) => true
  | _ => false

/-- The parameters of a function, the one that takes the rest included and the type of `this` left
out. -/
def parameters (t : Tree) : List Tree :=
  match t.childWhere? Label.isFormalParameters with
  | some ps => ps.children
  | none => []

def restReports (o : Options) (ps : List Tree) : List Diagnostic :=
  if o.allowRestParameter then []
  else
    match ps.find? fun p => p.label.isFormalParameterRest with
    | some p =>
      [.plain "functional-parameters" "restParam" p.span
        "Unexpected rest parameter. Use a regular parameter of type array instead."]
    | none => []

def countReports (span : Span) (n : Nat) : ParameterCount → List Diagnostic
  | .atLeastOne =>
    if n = 0 then
      [.plain "functional-parameters" "paramCountAtLeastOne" span
        "Functions must have at least one parameter."]
    else []
  | .exactlyOne =>
    if n = 1 then []
    else [.plain "functional-parameters" "paramCountExactlyOne" span
      "Functions must have exactly one parameter."]

def parameterReports (o : Options) (s : Site) : List Diagnostic :=
  let ps := parameters s.tree
  restReports o ps ++
    match o.enforceParameterCount with
    | none => []
    | some e =>
      if isAccessor s || (e.ignoreIIFE && s.isImmediatelyCalled) then []
      else countReports s.span ps.length e.count

/-- A function without a body is only declared, and not asked for anything. -/
def check (o : Options) (_source : Text) (s : Site) : CheckResult :=
  match s.label with
  | .function _ =>
    if (s.tree.childWhere? Label.isFunctionBody).isSome then { diagnostics := parameterReports o s }
    else .none
  | .arrowFunction .. => { diagnostics := parameterReports o s }
  | .identifierReference _ =>
    .report
      (.plain "functional-parameters" "arguments" s.span
        "Unexpected use of `arguments`. Use regular function arguments instead.")
  | _ => .none

end FunctionalParameters

/-- Functions of one parameter. -/
def functionalParameters : Definition where
  name := "functional-parameters"
  category := .currying
  Options := FunctionalParameters.Options
  optionsName := "FunctionalParametersOptions"
  fields := FunctionalParameters.fields
  defaults := {}
  ignore := FunctionalParameters.ignore
  runsOn := FunctionalParameters.runsOn
  check := FunctionalParameters.check

end PureLint.Rules
