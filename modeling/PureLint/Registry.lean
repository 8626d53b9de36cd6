import PureLint.Rules.Exceptions
import PureLint.Rules.Mutation
import PureLint.Rules.Objects
import PureLint.Rules.Parameters
import PureLint.Rules.ReadonlyTypes
import PureLint.Rules.Statements
import PureLint.Runner

/-!
# The rules there are

All definitions in their order, and how they are found by name.
-/

namespace PureLint.Registry

def definitions : List Definition :=
  [Rules.immutableData, Rules.noLet, Rules.preferReadonlyType, Rules.noMethodSignature,
    Rules.noMixedType,
   Rules.noExpressionStatement, Rules.noThisExpression, Rules.noClass, Rules.noLoopStatement,
     Rules.noThrowStatement,
   Rules.noTryStatement, Rules.functionalParameters, Rules.noPromiseReject]

def names : List String := definitions.map (·.name)

def find? (name : Text) : Option Definition := definitions.find? fun d => d.name.toList == name

/-- Where a rule is described. -/
def docs (d : Definition) : String :=
  "https://github.com/eslint-functional/eslint-plugin-functional/blob/main/docs/rules/" ++ d.name ++
    ".md"

/-- Every rule with its defaults, reporting errors. -/
def defaultRules : RuleSet :=
  definitions.filterMap fun d =>
    match d.build none with
    | .ok r => some ⟨r, .error⟩
    | .error _ => none

end PureLint.Registry
