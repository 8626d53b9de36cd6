import PureLint.Regex.Reader

/-!
# Patterns for texts

What the options of a rule look for in the text of a node: regular expressions, found anywhere in
it, and texts that it begins or ends with. A glob, in which `*` stands for any characters on a line,
is written as a regular expression.
-/

namespace PureLint

/-- A pattern that is no regular expression. -/
structure PatternError where
  pattern : Text
deriving DecidableEq, Repr

def PatternError.message (e : PatternError) : String :=
  "invalid pattern `" ++ String.ofList e.pattern ++ "`"

namespace Pattern

/-- Reads one pattern. -/
def compile (pattern : Text) : Except PatternError Regex :=
  match Regex.compile? pattern with
  | some r => .ok r
  | none => .error ⟨pattern⟩

/-- Reads patterns in order; the first that is none is the error. -/
def compileAll (patterns : List Text) : Except PatternError (List Regex) := patterns.mapM compile

def anyFound (rs : List Regex) (t : Text) : Bool := rs.any (·.isFound t)

def anyStart (starts : List Text) (t : Text) : Bool := starts.any fun s => t.startsWith s

def anyEnd (ends : List Text) (t : Text) : Bool := ends.any fun s => t.endsWith s

end Pattern

namespace Glob

/-- A text written so that a regular expression matches just it. -/
def escape : Text → Text
  | [] => []
  | c :: cs => if Regex.Reader.isMeta c then '\x5c' :: c :: escape cs else c :: escape cs

/-- The regular expression of a glob: its pieces, with anything on the line between them. -/
def toPattern (glob : Text) : Text :=
  '^' :: (Text.join ['.', '*'] ((Text.splitOn '*' glob).map escape) ++ ['$'])

/-- Reads the regular expression of a glob. -/
def compile (glob : Text) : Except PatternError Regex :=
  match Regex.compile? (toPattern glob) with
  | some r => .ok r
  | none => .error ⟨toPattern glob⟩

end Glob

end PureLint
