import PureLint.Regex.CharClass
import PureLint.Unicode.Age
import PureLint.Unicode.Script
import PureLint.Unicode.Segmentation

/-!
# Classes named by properties

The class of a property of Unicode: a single name is a yes-or-no property, a general category or a
script (`named?`); a name with a value is a property that has values (`valued?`). Names are compared
without case, blanks, hyphens, underscores and characters outside ASCII.
-/

namespace PureLint.Regex.CharClass

/-- Drops a leading `is`, in any case. -/
def dropIs : Text → Text
  | a :: b :: rest =>
    if (a == 'i' || a == 'I') && (b == 's' || b == 'S') then rest else a :: b :: rest
  | name => name

/-- A name as it is compared. The name `isc` keeps its beginning, because it does not stand for the
category `c`. -/
def normalizeName (name : Text) : String :=
  let kept (t : Text) : Text :=
    (t.filter fun c => c.toNat < 0x80 && c != ' ' && c != '-' && c != '_').map Char.toLower
  let rest := dropIs name
  if rest.length < name.length && kept rest == ['c'] then "isc" else String.ofList (kept rest)

/-- The code points that are neither controls, formats, private, surrogates nor unassigned. -/
def graphicRanges : Unicode.Ranges :=
  Unicode.Property.ofCategories (Unicode.Category.all.filter fun c => !([.cc, .cf, .co].contains c))

def category? (name : String) : Option CharClass :=
  if name == "any" then some any
  else if name == "ascii" then some (range 0 0x7f)
  else if name == "assigned" then some (ofRanges Unicode.assigned)
  else if name == "cn" || name == "unassigned" then some (compl (ofRanges Unicode.assigned))
  else if name == "c" || name == "other" then some (compl (ofRanges graphicRanges))
  else
    match Unicode.Category.all.find? fun c => c.names.contains name with
    | some c => some (ofRanges c.toRanges)
    | none =>
      (Unicode.Category.groups.find? fun g => g.1.contains name).map fun g =>
        ofRanges (Unicode.Property.ofCategories g.2)

/-- A class named by a single word: a property, a category or a script. -/
def named? (name : Text) : Option CharClass :=
  let name := normalizeName name
  ((Unicode.Property.ofName? name).map fun p => ofRanges p.toRanges) <|> category? name <|>
    (Unicode.script? name).map ofRanges

/-- The properties that have values, by name, with what each takes a value to. -/
def valuedProperties : List (List String × (String → Option CharClass)) :=
  [(["gc", "generalcategory"], category?),
   (["sc", "script"], fun v => (Unicode.script? v).map ofRanges),
   (["scx", "scriptextensions"], fun v => (Unicode.scriptExtension? v).map ofRanges),
   (["age"], fun v => (Unicode.presentIn? v).map ofRanges),
   (["gcb", "graphemeclusterbreak"], fun v => (Unicode.graphemeBreak? v).map ofRanges),
   (["wb", "wordbreak"], fun v => (Unicode.wordBreak? v).map ofRanges),
   (["sb", "sentencebreak"], fun v => (Unicode.sentenceBreak? v).map ofRanges)]

/-- A class named by a property and its value. -/
def valued? (property value : Text) : Option CharClass :=
  let name := normalizeName property
  (valuedProperties.find? fun row => row.1.contains name).bind fun row =>
    row.2 (normalizeName value)

end PureLint.Regex.CharClass
