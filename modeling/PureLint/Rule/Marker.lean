import PureLint.Rule

/-!
# Markers

A rule that is given by the kinds of nodes it looks at. It reports the texts of each node and offers
to mark it in the source, which shows what other rules with the same options would be shown.
-/

namespace PureLint

/-- What a marker looks at and what it is silent about. -/
structure Marker where
  name : String
  kinds : List Text
  ignore : Option IgnoreOptions := none
  skipIgnoredSubtree : Bool := false
  /-- Nodes with these texts hide what is below them. -/
  skipChildrenOf : List Text := []
  /-- Nodes with these texts are not reported. -/
  silent : List Text := []
  /-- Whether a node that is not reported hides what is below it. -/
  skipSilent : Bool := false

namespace Marker

/-- The texts of a site with commas between them. -/
def siteText (source : Text) (s : Site) : Text := Text.join [','] (Ignore.identifierTexts source s)

def diagnostic (m : Marker) (s : Site) (text : Text) : Diagnostic :=
  { rule := m.name
    id := "custom"
    span := s.span
    message := String.ofList text
    help := some s.label.kindName
    fixes := [{ Fix.insert s.span.start "/**/".toList with message := some "mark" }] }

def check (m : Marker) (source : Text) (s : Site) : CheckResult :=
  let text := siteText source s
  let isSilent := m.silent.contains text
  { diagnostics := if isSilent then [] else [m.diagnostic s text]
    skipChildren := m.skipChildrenOf.contains text || (m.skipSilent && isSilent) }

def toRule (m : Marker) : Rule where
  name := m.name
  runsOn := fun t => m.kinds.contains t.label.kindName.toList
  ignore := m.ignore
  skipIgnoredSubtree := m.skipIgnoredSubtree
  check := m.check

end Marker

end PureLint
