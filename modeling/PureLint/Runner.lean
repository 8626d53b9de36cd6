import PureLint.Rule

/-!
# Running rules

Every site of a tree is offered to every rule, site after site and for each site in the order of the
rules. For each rule the numbers of the nodes below which it sees nothing are kept.
-/

namespace PureLint

/-- Rules in the order in which they run. -/
abbrev RuleSet := List ConfiguredRule

namespace RuleSet

/-- Adds a rule at the end; an earlier rule of that name goes. -/
def push (rules : RuleSet) (r : Rule) (s : Severity) : RuleSet :=
  rules.filter (fun c => c.rule.name != r.name) ++ [⟨r, s⟩]

def isEnabled (rules : RuleSet) (name : String) : Bool := rules.any fun c => c.rule.name == name

end RuleSet

namespace Runner

/-- The numbers of the nodes below which a rule sees nothing. -/
abbrev Hidden := List Nat

/-- Whether a site lies below a hidden node. -/
def isHidden (hidden : Hidden) (s : Site) : Bool := s.above.any fun n => hidden.contains n.id

/-- Offers a site to a rule: what it reports, and what it sees no more. -/
def offer (source : Text) (s : Site) (c : ConfiguredRule) (hidden : Hidden) :
    List Diagnostic × Hidden :=
  if !c.rule.runsOn s.tree || isHidden hidden s then ([], hidden)
  else if c.rule.ignores source s then
    ([], if c.rule.skipIgnoredSubtree then s.node.id :: hidden else hidden)
  else
    let r := c.rule.check source s
    (r.diagnostics.map (·.withSeverity c.severity),
      if r.skipChildren then s.node.id :: hidden else hidden)

def offerAll (source : Text) (s : Site) :
    List (ConfiguredRule × Hidden) → List Diagnostic × List (ConfiguredRule × Hidden)
  | [] => ([], [])
  | (c, hidden) :: rest =>
    let (ds, hidden') := offer source s c hidden
    let (ds', rest') := offerAll source s rest
    (ds ++ ds', (c, hidden') :: rest')

def runSites (source : Text) : List Site → List (ConfiguredRule × Hidden) → List Diagnostic
  | [], _ => []
  | s :: ss, state =>
    let (ds, state') := offerAll source s state
    ds ++ runSites source ss state'

/-- The reports of rules on a tree. -/
def run (source : Text) (tree : Tree) (rules : RuleSet) : List Diagnostic :=
  runSites source tree.sites (rules.map fun c => (c, []))

end Runner

end PureLint
