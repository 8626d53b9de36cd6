import PureLint.Registry

/-!
# Configurations

A configuration gives rules by name, each with a severity and maybe options: `"off"`, `"warn"`,
`"error"` or `0`, `1`, `2`, alone or in an array with the options behind it. A rule that is off is
only looked up. The first entry with a fault is the error of the whole, and in one entry a bad
severity goes before an unknown name, that before bad options, and those before a bad pattern.
-/

namespace PureLint

/-- Why a configuration is not accepted. -/
inductive ConfigError where
  /-- The text is no JSON. -/
  | malformed
  /-- The text is JSON of another shape. -/
  | shape (e : Json.ShapeError)
  | unknownRule (name : Text)
  | invalidSeverity (rule : Text) (value : Json)
  | invalidOptions (rule : Text) (e : Json.ShapeError)
  | invalidPattern (rule : Text) (e : PatternError)

def ConfigError.message : ConfigError → String
  | malformed => "invalid configuration: not well-formed"
  | shape e => "invalid configuration: " ++ e.message
  | unknownRule name => "unknown rule `" ++ String.ofList name ++ "`"
  | invalidSeverity rule value =>
    "invalid severity for `" ++ String.ofList rule ++ "`: " ++ String.ofList value.render
  | invalidOptions rule e => "invalid options for `" ++ String.ofList rule ++ "`: " ++ e.message
  | invalidPattern rule e => "invalid pattern for `" ++ String.ofList rule ++ "`: " ++ e.message

/-- Reads options and gives the rule of a name. -/
def Registry.build (name : Text) (options : Option Json) : Except ConfigError Rule :=
  match Registry.find? name with
  | none => .error (.unknownRule name)
  | some d =>
    match d.build options with
    | .ok r => .ok r
    | .error (.options e) => .error (.invalidOptions name e)
    | .error (.pattern e) => .error (.invalidPattern name e)

/-- Adds the rule of a name with the given options. -/
def RuleSet.pushNamed (rules : RuleSet) (name : Text) (options : Option Json) (s : Severity) :
    Except ConfigError RuleSet :=
  (Registry.build name options).map fun r => rules.push r s

namespace Config

/-- The severity of a rule in a configuration; `none` is off. -/
def severity? : Json → Option (Option Severity)
  | .string t =>
    [("off", none), ("warn", some Severity.warning), ("error", some Severity.error)].lookup
      (String.ofList t)
  | .number (.nonNegative n) =>
    [(0, none), (1, some Severity.warning), (2, some Severity.error)].lookup n
  | _ => none

structure Entry where
  severity : Option Severity
  options : Option Json

def readSeverity (rule : Text) (v : Json) : Except ConfigError (Option Severity) :=
  match severity? v with
  | some s => .ok s
  | none => .error (.invalidSeverity rule v)

def readEntry (rule : Text) : Json → Except ConfigError Entry
  | .array [s] => (readSeverity rule s).map fun s => ⟨s, none⟩
  | .array [s, options] => (readSeverity rule s).map fun s => ⟨s, some options⟩
  | .array items => .error (.invalidSeverity rule (.array items))
  | v => (readSeverity rule v).map fun s => ⟨s, none⟩

/-- Adds the rule of an entry, if it is not off. -/
def addEntry (rules : RuleSet) (name : Text) (v : Json) : Except ConfigError RuleSet :=
  match readEntry name v with
  | .error e => .error e
  | .ok ⟨none, _⟩ => (Registry.build name none).map fun _ => rules
  | .ok ⟨some s, options⟩ => rules.pushNamed name options s

def addEntries (rules : RuleSet) : List (Text × Json) → Except ConfigError RuleSet
  | [] => .ok rules
  | (name, v) :: rest =>
    match addEntry rules name v with
    | .ok rules' => addEntries rules' rest
    | .error e => .error e

def ofEntries (entries : List (Text × Json)) : Except ConfigError RuleSet := addEntries [] entries

/-- Adds an entry to an ordered list; of two with one name the first keeps its place and the last
its value. -/
def insertEntry (name : Text) (v : Json) : List (Text × Json) → List (Text × Json)
  | [] => [(name, v)]
  | (k, w) :: rest => if k == name then (k, v) :: rest else (k, w) :: insertEntry name v rest

/-- The entries with one of each name. -/
def collect (entries : List (Text × Json)) : List (Text × Json) :=
  entries.foldl (fun acc p => insertEntry p.1 p.2 acc) []

end Config

end PureLint
