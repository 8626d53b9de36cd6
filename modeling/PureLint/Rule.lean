import PureLint.Diagnostic
import PureLint.Ignore

/-!
# Rules

A rule says on which nodes it runs, what it leaves alone and what it reports about a site. A
configured rule also has the severity of its reports.
-/

namespace PureLint

/-- What came of looking at a site. -/
structure CheckResult where
  diagnostics : List Diagnostic := []
  /-- Whether the rule wants to see nothing below the site. -/
  skipChildren : Bool := false

namespace CheckResult

def none : CheckResult := {}

def report (d : Diagnostic) : CheckResult := { diagnostics := [d] }

def ofOption (d : Option Diagnostic) : CheckResult := { diagnostics := d.toList }

end CheckResult

structure Rule where
  name : String
  /-- Whether the rule looks at a node, of which it is given everything at and below it. -/
  runsOn : Tree → Bool
  /-- What the rule leaves alone. -/
  ignore : Option IgnoreOptions := none
  /-- Whether what lies below an ignored node is left alone too. -/
  skipIgnoredSubtree : Bool := false
  /-- Looks at a site of a tree that was read from a source. -/
  check : Text → Site → CheckResult

/-- A rule with the severity of its reports. -/
structure ConfiguredRule where
  rule : Rule
  severity : Severity

namespace Rule

def ignores (r : Rule) (source : Text) (s : Site) : Bool :=
  r.ignore.any fun o => Ignore.shouldIgnore source o s

end Rule

end PureLint
