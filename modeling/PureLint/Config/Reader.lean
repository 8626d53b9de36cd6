import PureLint.Config
import PureLint.Json.Reader

/-!
# Reading configurations

The text of a configuration is an object with the one field `rules`, itself an object, or an array
with the value of that field. It is read from left to right and the first fault is the error, so a
value of the wrong kind goes before text that is not well formed behind it.
-/

namespace PureLint.Config

open Json.Reader (skipBlanks)

/-- Entries as they are written, with the text behind them. -/
abbrev Entries := List (Text × Json) × Text

/-- The error of a value of the wrong kind at the front of a text. -/
def wrongKind (expected : String) (cs : Text) : ConfigError :=
  let named (v : Json) : ConfigError := .shape (.wrongKind v expected)
  match skipBlanks cs with
  | '[' :: _ => named (.array [])
  | '\x7b' :: _ => named (.object [])
  | cs =>
    match Json.Reader.valueAt? 0 cs with
    | some (v, _) => named v
    | none => .malformed

/-- Reads the entries of the rules, inside one object or array. -/
def rulesAt (cs : Text) : Except ConfigError Entries :=
  match skipBlanks cs with
  | '\x7b' :: rest =>
    match Json.Reader.membersAt? 2 rest with
    | some entries => .ok entries
    | none => .error .malformed
  | cs => .error (wrongKind "a map" cs)

def keyAt (cs : Text) : Except ConfigError (Text × Text) :=
  match Json.Reader.string? (skipBlanks cs) with
  | some (key, rest) =>
    if key == "rules".toList then .ok (key, rest) else .error (.shape (.unknownField key ["rules"]))
  | none => .error .malformed

/-- Reads what follows the value of the field: the end of the object. Another field can only be a
fault. -/
def closeObject (entries : Entries) : Except ConfigError Entries :=
  match skipBlanks entries.2 with
  | '\x7d' :: rest => .ok (entries.1, rest)
  | ',' :: rest =>
    match keyAt rest with
    | .ok _ => .error (.shape (.duplicateField "rules"))
    | .error e => .error e
  | _ => .error .malformed

/-- Reads the fields of the object behind its opening brace. -/
def objectAt (cs : Text) : Except ConfigError Entries :=
  match skipBlanks cs with
  | '\x7d' :: rest => .ok ([], rest)
  | cs =>
    match keyAt cs with
    | .error e => .error e
    | .ok (_, rest) =>
      match skipBlanks rest with
      | ':' :: rest =>
        match rulesAt rest with
        | .ok entries => closeObject entries
        | .error e => .error e
      | _ => .error .malformed

/-- Reads the items of the array behind its opening bracket. -/
def arrayAt (cs : Text) : Except ConfigError Entries :=
  match skipBlanks cs with
  | ']' :: rest => .ok ([], rest)
  | cs =>
    match rulesAt cs with
    | .error e => .error e
    | .ok (entries, rest) =>
      match skipBlanks rest with
      | ']' :: rest => .ok (entries, rest)
      | _ => .error .malformed

def configAt (cs : Text) : Except ConfigError Entries :=
  match skipBlanks cs with
  | '\x7b' :: rest => objectAt rest
  | '[' :: rest => arrayAt rest
  | cs => .error (wrongKind "struct ConfigFile" cs)

/-- The entries of the text of a configuration, one of each name. -/
def entriesOf (t : Text) : Except ConfigError (List (Text × Json)) :=
  match configAt t with
  | .error e => .error e
  | .ok (entries, rest) =>
    if (skipBlanks rest).isEmpty then .ok (collect entries) else .error .malformed

/-- The rules of the text of a configuration. -/
def parse (t : Text) : Except ConfigError RuleSet :=
  match entriesOf t with
  | .error e => .error e
  | .ok entries => ofEntries entries

end PureLint.Config
