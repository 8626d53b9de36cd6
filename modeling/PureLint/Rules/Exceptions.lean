import PureLint.Rule.Definition
import PureLint.Tree.Inspect

/-!
# Rules against exceptions

`noThrowStatement`, `noTryStatement` and `noPromiseReject`.
-/

namespace PureLint.Rules

open Json.Shape (FieldShape flag)

namespace NoThrowStatement

structure Options where
  allowInAsyncFunctions : Bool := false

def fields : List (FieldShape Options) :=
  [.of "allowInAsyncFunctions" flag fun v o => { o with allowInAsyncFunctions := v }]

def runsOn : Label → Bool
  | .throwStatement => true
  | _ => false

def check (o : Options) (_source : Text) (s : Site) : CheckResult :=
  if !runsOn s.label || (o.allowInAsyncFunctions && s.inAsyncFunction) then .none
  else
    .report
      (.plain "no-throw-statement" "generic" s.span
        "Unexpected throw, throwing exceptions is not functional.")

end NoThrowStatement

/-- No throwing. -/
def noThrowStatement : Definition where
  name := "no-throw-statement"
  category := .noExceptions
  Options := NoThrowStatement.Options
  optionsName := "NoThrowStatementOptions"
  fields := NoThrowStatement.fields
  defaults := {}
  runsOn := fun _ => NoThrowStatement.runsOn
  check := NoThrowStatement.check

namespace NoTryStatement

structure Options where
  allowCatch : Bool := false
  allowFinally : Bool := false

def fields : List (FieldShape Options) :=
  [.of "allowCatch" flag fun v o => { o with allowCatch := v },
   .of "allowFinally" flag fun v o => { o with allowFinally := v }]

/-- The rule looks at guarded blocks. -/
def runsOn : Label → Bool
  | .tryStatement => true
  | _ => false

/-- Whether a part of a statement catches. -/
def isHandler : Tree → Bool
  | .node .catchClause _ _ => true
  | _ => false

/-- Whether something follows the guarded block besides what catches. -/
def hasFinalizer (t : Tree) : Bool := (t.children.drop 1).any fun c => !isHandler c

/-- One report for a statement; that it catches goes before that it finishes. -/
def check (o : Options) (_source : Text) (s : Site) : CheckResult :=
  if !runsOn s.label then .none
  else if s.tree.children.any isHandler && !o.allowCatch then
    .report
      (.plain "no-try-statement" "catch" s.span
        "Unexpected try-catch, this pattern is not functional.")
  else if hasFinalizer s.tree && !o.allowFinally then
    .report
      (.plain "no-try-statement" "finally" s.span
        "Unexpected try-finally, this pattern is not functional.")
  else .none

end NoTryStatement

/-- No guarded blocks. -/
def noTryStatement : Definition where
  name := "no-try-statement"
  category := .noExceptions
  Options := NoTryStatement.Options
  optionsName := "NoTryStatementOptions"
  fields := NoTryStatement.fields
  defaults := {}
  runsOn := fun _ => NoTryStatement.runsOn
  check := NoTryStatement.check

namespace NoPromiseReject

def runsOn : Label → Bool
  | .callExpression => true
  | _ => false

def check (s : Site) : CheckResult :=
  if s.tree.isPromiseReject then
    .report
      (.plain "no-promise-reject" "generic" s.span "Unexpected reject, return an error instead.")
  else .none

end NoPromiseReject

/-- No rejected promises. -/
def noPromiseReject : Definition where
  name := "no-promise-reject"
  category := .noExceptions
  Options := NoOptions
  optionsName := "NoOptions"
  fields := []
  defaults := {}
  runsOn := fun _ => NoPromiseReject.runsOn
  check := fun _ _ => NoPromiseReject.check

end PureLint.Rules
