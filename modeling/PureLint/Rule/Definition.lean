import PureLint.Rule

/-!
# Definitions of rules

A definition is a rule before its options are known: which options it has, what they leave alone and
what is reported under them. `Definition.build` reads options and gives the rule. Options that are
not given are the defaults.
-/

namespace PureLint

inductive Category where
  | noMutations | noObjectOrientation | noStatements | noExceptions | currying
deriving DecidableEq, Repr

def Category.word : Category → String
  | noMutations => "NoMutations"
  | noObjectOrientation => "NoObjectOrientation"
  | noStatements => "NoStatements"
  | noExceptions => "NoExceptions"
  | currying => "Currying"

/-- Why a rule cannot be built. -/
inductive BuildError where
  /-- The options have the wrong shape. -/
  | options (e : Json.ShapeError)
  /-- A pattern in the options is none. -/
  | pattern (e : PatternError)

/-- A rule with options. -/
structure Definition where
  name : String
  category : Category
  /-- The options of the rule. -/
  Options : Type
  /-- What an error calls the options. -/
  optionsName : String
  /-- The options by name, in the order in which an array gives them. -/
  fields : List (Json.Shape.FieldShape Options)
  defaults : Options
  /-- What is left alone. -/
  ignore : Options → Option IgnoreSettings := fun _ => none
  /-- Whether what lies below an ignored node is left alone too. -/
  skipIgnoredSubtree : Bool := false
  /-- The nodes the rule looks at, which it knows by their labels. -/
  runsOn : Options → Label → Bool
  /-- Looks at a site. -/
  check : Options → Text → Site → CheckResult

structure NoOptions where
deriving DecidableEq, Repr

namespace Definition

def readOptions (d : Definition) : Option Json → Except Json.ShapeError d.Options
  | none => .ok d.defaults
  | some v => Json.Shape.record d.optionsName d.fields d.defaults v

/-- The rule under given options and with the given exemptions. -/
def toRule (d : Definition) (o : d.Options) (ignore : Option IgnoreOptions) : Rule where
  name := d.name
  runsOn := fun t => d.runsOn o t.label
  ignore := ignore
  skipIgnoredSubtree := d.skipIgnoredSubtree
  check := d.check o

/-- The rule under given options, once their patterns are read. -/
def withOptions (d : Definition) (o : d.Options) : Except PatternError Rule :=
  match d.ignore o with
  | none => .ok (d.toRule o none)
  | some settings => settings.compile.map fun i => d.toRule o (some i)

def build (d : Definition) (options : Option Json) : Except BuildError Rule :=
  match d.readOptions options with
  | .error e => .error (.options e)
  | .ok o =>
    match d.withOptions o with
    | .error e => .error (.pattern e)
    | .ok r => .ok r

end Definition

end PureLint
