import PureLint.Json.Basic
import PureLint.Unicode.Property
import PureLint.Unicode.Recent

/-!
# Shapes of JSON values

Reading a value as something more definite: a flag, a word of a given list, or a record. A record is
written as an object with some of its fields, or as an array with the values of its first fields;
fields that are not written keep their defaults, and nothing else may be written. What is wrong with
a value is a `ShapeError`, whose wording is in `ShapeError.message`.
-/

namespace PureLint.Json

/-- Why a value does not have a shape. -/
inductive ShapeError where
  /-- Another kind of value was expected. -/
  | wrongKind (found : Json) (expected : String)
  /-- A record has no such field. -/
  | unknownField (name : Text) (known : List String)
  | duplicateField (name : String)
  /-- An array has more items than a record has fields. -/
  | tooLong (length : Nat)
  /-- None of several shapes fits; `name` names them together. -/
  | noneFits (name : String)

/-- The code points that are shown as they are: those that are assigned, other than controls,
formats, separators, private ones and what extends a grapheme. -/
def shownCodes : Unicode.Ranges :=
  Unicode.Ranges.without (Unicode.assigned ++ Unicode.Recent.all)
    (Unicode.Property.ofCategories [.cc, .cf, .co, .zs, .zl, .zp] ++
      Unicode.Property.graphemeExtendRanges ++ Unicode.Recent.nonspacingMarks)

def isHidden (c : Char) : Bool := c != ' ' && !shownCodes.has c.toNat

def shownChar (c : Char) : Text :=
  if c == '\x22' || c == '\x5c' then ['\x5c', c]
  else if c == '\n' then ['\x5c', 'n']
  else if c == '\r' then ['\x5c', 'r']
  else if c == '\t' then ['\x5c', 't']
  else if c == '\x00' then ['\x5c', '0']
  else if isHidden c then '\x5c' :: 'u' :: '\x7b' :: (Nat.toDigits 16 c.toNat ++ ['\x7d'])
  else [c]

/-- A text in quotes, with what cannot be seen escaped. -/
def shownQuote (t : Text) : Text := '\x22' :: (t.flatMap shownChar ++ ['\x22'])

/-- What a value is, as an error names it. -/
def describe : Json → String
  | null => "null"
  | bool b => "boolean `" ++ (if b then "true" else "false") ++ "`"
  | number (.double d) => "floating point `" ++ String.ofList (renderDouble d) ++ "`"
  | number n => "integer `" ++ String.ofList (renderNumber n) ++ "`"
  | string t => "string " ++ String.ofList (shownQuote t)
  | array _ => "sequence"
  | object _ => "map"

/-- A list of fields, as an error names them. -/
def fieldList : List String → String
  | [] => "there are no fields"
  | [a] => "expected `" ++ a ++ "`"
  | [a, b] => "expected `" ++ a ++ "` or `" ++ b ++ "`"
  | fields => "expected one of " ++ ", ".intercalate (fields.map fun f => "`" ++ f ++ "`")

/-- The wording of an error. -/
def ShapeError.message : ShapeError → String
  | wrongKind found expected => "invalid type: " ++ found.describe ++ ", expected " ++ expected
  | unknownField name known => "unknown field `" ++ String.ofList name ++ "`, " ++ fieldList known
  | duplicateField name => "duplicate field `" ++ name ++ "`"
  | tooLong n => "invalid length " ++ toString n ++ ", expected fewer elements in array"
  | noneFits name => "data did not match any variant of untagged enum " ++ name

namespace Shape

def flag : Json → Except ShapeError Bool
  | .bool b => .ok b
  | v => .error (.wrongKind v "a boolean")

def text? : Json → Option Text
  | .string t => some t
  | _ => none

/-- A word of a list: the word as a string, or an object with the word as its only key and nothing
as its value. -/
def word? {α : Type} (words : List (String × α)) : Json → Option α
  | .string t => words.lookup (String.ofList t)
  | .object [(k, .null)] => words.lookup (String.ofList k)
  | _ => none

/-- A field of a record: its name, and how its value changes the record. -/
structure FieldShape (ρ : Type) where
  name : String
  set : Json → ρ → Except ShapeError ρ

/-- A field whose value has a shape of its own. -/
def FieldShape.of {ρ α : Type} (name : String) (shape : Json → Except ShapeError α)
    (update : α → ρ → ρ) : FieldShape ρ :=
  ⟨name, fun v r => (shape v).map fun a => update a r⟩

/-- Sets the fields written in an object, in the order of its keys. -/
def setMembers {ρ : Type} (fields : List (FieldShape ρ)) :
    List (Text × Json) → ρ → Except ShapeError ρ
  | [], r => .ok r
  | (key, value) :: rest, r =>
    match fields.find? fun f => f.name.toList == key with
    | none => .error (.unknownField key (fields.map (·.name)))
    | some f =>
      match f.set value r with
      | .ok r' => setMembers fields rest r'
      | .error e => .error e

/-- Sets the first fields to the items of an array. -/
def setItems {ρ : Type} (length : Nat) : List (FieldShape ρ) → List Json → ρ → Except ShapeError ρ
  | _, [], r => .ok r
  | [], _ :: _, _ => .error (.tooLong length)
  | f :: fs, v :: vs, r =>
    match f.set v r with
    | .ok r' => setItems length fs vs r'
    | .error e => .error e

/-- A record with the given fields; `name` is what an error calls it. -/
def record {ρ : Type} (name : String) (fields : List (FieldShape ρ)) (default : ρ) :
    Json → Except ShapeError ρ
  | .object members => setMembers fields members default
  | .array items => setItems items.length fields items default
  | v => .error (.wrongKind v ("struct " ++ name))

end Shape

end PureLint.Json
