import PureLint.Config.Reader
import PureLint.Fixer
import PureLint.SourceFile

/-!
# Linting

`lint` reads a text and runs rules on it. A `Report` counts what they found, and `fixLoop` lints and
mends a text until nothing is left that can be mended.
-/

namespace PureLint

/-- Why a text is not linted. -/
inductive LintError where
  /-- The text is no program. -/
  | unreadable
  | config (e : ConfigError)

structure Report where
  diagnostics : List Diagnostic

namespace Report

def count (r : Report) (s : Severity) : Nat := r.diagnostics.countP fun d => d.severity == s

/-- The reports of a rule. -/
def byRule (r : Report) (name : String) : List Diagnostic :=
  r.diagnostics.filter fun d => d.rule == name

/-- The known rules that found something, with how much. -/
def tally (r : Report) : List (String × Nat) :=
  (Registry.names.map fun name => (name, (r.byRule name).length)).filter fun p => 0 < p.2

end Report

/-- Runs rules on a text. -/
def lint (source : Text) (path : Option Text) (rules : RuleSet) : Except LintError Report :=
  match SourceFile.parse? source path with
  | some file => .ok ⟨Runner.run source file.tree rules⟩
  | none => .error .unreadable

/-- The rules of the text of a configuration, or all rules where there is none. -/
def rulesOf : Option Text → Except LintError RuleSet
  | none => .ok Registry.defaultRules
  | some config =>
    match Config.parse config with
    | .ok rules => .ok rules
    | .error e => .error (.config e)

def lintWith (config : Option Text) (source : Text) (path : Option Text) :
    Except LintError Report :=
  match rulesOf config with
  | .ok rules => lint source path rules
  | .error e => .error e

/-- A round of linting and mending. -/
inductive Pass where
  | mended (found : Nat) (result : Fixer.Result)
  /-- The replacements cannot be made. -/
  | unmendable
  | failed (e : LintError)

/-- Lints and mends a text in at most `n` rounds, until nothing is mended. -/
def fixLoop (config : Option Text) (path : Option Text) : Nat → Text → List Pass
  | 0, _ => []
  | n + 1, source =>
    match lintWith config source path with
    | .error e => [.failed e]
    | .ok report =>
      match Fixer.applyFixes source report.diagnostics with
      | none => [.unmendable]
      | some result =>
        .mended report.diagnostics.length result ::
          (if result.applied = 0 then [] else fixLoop config path n result.output)

end PureLint
