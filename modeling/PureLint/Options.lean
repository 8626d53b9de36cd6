import PureLint.Accessor
import PureLint.Json.Shape

/-!
# Options shared by the rules

The values that occur in the options of several rules, and `IgnoreOptions`: what a rule leaves
alone. Patterns are read when a rule is built, so a bad one is an error of the configuration.
-/

namespace PureLint

open Json (ShapeError)

inductive OneOrMany where
  | one (t : Text)
  | many (ts : List Text)
deriving DecidableEq, Repr

namespace OneOrMany

def none : OneOrMany := many []

def toList : OneOrMany → List Text
  | one t => [t]
  | many ts => ts

def ofJson (v : Json) : Except ShapeError OneOrMany :=
  match v with
  | .string t => .ok (one t)
  | .array items =>
    match items.mapM Json.Shape.text? with
    | some ts => .ok (many ts)
    | Option.none => .error (.noneFits "OneOrMany")
  | _ => .error (.noneFits "OneOrMany")

end OneOrMany

inductive IgnoreClass where
  | off
  /-- Fields, and assignments to members of `this`. -/
  | fieldsOnly
  /-- Everything. -/
  | all
deriving DecidableEq, Repr

/-- Reads a flag, or the word for fields. -/
def IgnoreClass.ofJson (v : Json) : Except ShapeError IgnoreClass :=
  match v with
  | .bool b => .ok (if b then .all else .off)
  | _ =>
    match Json.Shape.word? [("fieldsOnly", fieldsOnly)] v with
    | some c => .ok c
    | none => .error (.noneFits "IgnoreClassValue")

inductive ParameterCount where
  | atLeastOne | exactlyOne
deriving DecidableEq, Repr

def ParameterCount.words : List (String × ParameterCount) :=
  [("atLeastOne", .atLeastOne), ("exactlyOne", .exactlyOne)]

/-- What is asked of the number of parameters. -/
structure EnforceCount where
  count : ParameterCount := .atLeastOne
  /-- Leave functions alone that are called where they stand. -/
  ignoreIIFE : Bool := true
deriving DecidableEq, Repr

namespace EnforceCount

/-- The fields of the long form. -/
def fields : List (Json.Shape.FieldShape EnforceCount) :=
  [.of "count"
     (fun v =>
       match Json.Shape.word? ParameterCount.words v with
       | some c => .ok c
       | none => .error (.noneFits "ParameterCount"))
     fun c e => { e with count := c },
   .of "ignoreIIFE" Json.Shape.flag fun b e => { e with ignoreIIFE := b }]

/-- Reads a flag, a word or the long form; `none` means that nothing is asked. -/
def ofJson (v : Json) : Except ShapeError (Option EnforceCount) :=
  match v with
  | .bool b => .ok (if b then some {} else none)
  | _ =>
    match Json.Shape.word? ParameterCount.words v with
    | some c => .ok (some { count := c })
    | none =>
      match Json.Shape.record "DetailedParameterCount" fields {} v with
      | .ok e => .ok (some e)
      | .error _ => .error (.noneFits "EnforceParameterCountOption")

end EnforceCount

/-- What a rule leaves alone. -/
structure IgnoreOptions where
  /-- Everything in the body of a function. -/
  allowLocalMutation : Bool := false
  /-- Texts in which one of these is found. -/
  patterns : List Regex := []
  /-- Paths that one of these matches. -/
  accessorPatterns : List AccessorPattern := []
  ignoreClass : IgnoreClass := .off
  /-- Everything in the body of an interface. -/
  ignoreInterface : Bool := false
  /-- Texts that begin with one of these. -/
  starts : List Text := []
  /-- Texts that end with one of these. -/
  ends : List Text := []

namespace IgnoreOptions

/-- Whether an option looks at texts. -/
def hasTextMatchers (o : IgnoreOptions) : Bool :=
  !o.patterns.isEmpty || !o.accessorPatterns.isEmpty || !o.starts.isEmpty || !o.ends.isEmpty

def matchesPattern (o : IgnoreOptions) (t : Text) : Bool := Pattern.anyFound o.patterns t

def matchesAccessor (o : IgnoreOptions) (t : Text) : Bool := o.accessorPatterns.any (·.isMatch t)

/-- Whether a text begins or ends as the options say. -/
def matchesAffix (o : IgnoreOptions) (t : Text) : Bool :=
  Pattern.anyStart o.starts t || Pattern.anyEnd o.ends t

end IgnoreOptions

/-- What a rule leaves alone, with the patterns as they are written. -/
structure IgnoreSettings where
  allowLocalMutation : Bool := false
  ignorePattern : List Text := []
  ignoreAccessorPattern : List Text := []
  ignoreClass : IgnoreClass := .off
  ignoreInterface : Bool := false
  starts : List Text := []
  ends : List Text := []

/-- Reads the patterns; the first that is none is the error. -/
def IgnoreSettings.compile (s : IgnoreSettings) : Except PatternError IgnoreOptions := do
  let patterns ← Pattern.compileAll s.ignorePattern
  let accessorPatterns ← AccessorPattern.parseAll s.ignoreAccessorPattern
  return {
    allowLocalMutation := s.allowLocalMutation
    patterns
    accessorPatterns
    ignoreClass := s.ignoreClass
    ignoreInterface := s.ignoreInterface
    starts := s.starts
    ends := s.ends }

end PureLint
