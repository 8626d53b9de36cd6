import PureLint.Rule.Definition
import PureLint.Tree.Inspect

/-!
# Rules against statements

`noExpressionStatement` reports expressions that are there only for what they do, `noLoopStatement`
reports loops.
-/

namespace PureLint.Rules

open Json.Shape (FieldShape flag)

namespace NoExpressionStatement

structure Options where
  ignorePattern : OneOrMany := .none
  ignorePrefix : OneOrMany := .none
  ignoreSuffix : OneOrMany := .none
  /-- Leave `void` expressions alone. -/
  ignoreVoid : Bool := false

def fields : List (FieldShape Options) :=
  [.of "ignorePattern" OneOrMany.ofJson fun v o => { o with ignorePattern := v },
   .of "ignorePrefix" OneOrMany.ofJson fun v o => { o with ignorePrefix := v },
   .of "ignoreSuffix" OneOrMany.ofJson fun v o => { o with ignoreSuffix := v },
   .of "ignoreVoid" flag fun v o => { o with ignoreVoid := v }]

def ignore (o : Options) : Option IgnoreSettings :=
  some
    { ignorePattern := o.ignorePattern.toList
      starts := o.ignorePrefix.toList
      ends := o.ignoreSuffix.toList }

def runsOn : Label → Bool
  | .expressionStatement => true
  | _ => false

/-- Whether the expression of a statement is a `void` expression, in parentheses or not. -/
def isVoid (t : Tree) : Bool :=
  match t.children with
  | e :: _ =>
    match e.withoutParentheses with
    | .node (.unaryExpression .void) _ _ => true
    | _ => false
  | [] => false

/-- The value of an arrow function without braces is no statement. -/
def check (o : Options) (_source : Text) (s : Site) : CheckResult :=
  if !runsOn s.label || s.isConciseBody || (o.ignoreVoid && isVoid s.tree) then .none
  else
    .report
      (.plain "no-expression-statement" "generic" s.span
        "Using expressions to cause side-effects not allowed.")

end NoExpressionStatement

/-- No expressions as statements. -/
def noExpressionStatement : Definition where
  name := "no-expression-statement"
  category := .noStatements
  Options := NoExpressionStatement.Options
  optionsName := "NoExpressionStatementOptions"
  fields := NoExpressionStatement.fields
  defaults := {}
  ignore := NoExpressionStatement.ignore
  runsOn := fun _ => NoExpressionStatement.runsOn
  check := NoExpressionStatement.check

namespace NoLoopStatement

/-- The rule looks at loops of every kind. -/
def runsOn : Label → Bool
  | .forStatement | .forInStatement | .forOfStatement | .whileStatement | .doWhileStatement => true
  | _ => false

/-- Whatever the rule is shown is reported. -/
def check (s : Site) : CheckResult :=
  .report
    (.plain "no-loop-statement" "generic" s.span "Unexpected loop, use map or reduce instead.")

end NoLoopStatement

/-- No loops. -/
def noLoopStatement : Definition where
  name := "no-loop-statement"
  category := .noStatements
  Options := NoOptions
  optionsName := "NoOptions"
  fields := []
  defaults := {}
  runsOn := fun _ => NoLoopStatement.runsOn
  check := fun _ _ => NoLoopStatement.check

end PureLint.Rules
