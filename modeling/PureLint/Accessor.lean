import PureLint.Text.Pattern

/-!
# Accessor patterns

Patterns for paths such as `a.b.c`. A pattern is split at its points: `*` stands for one segment of
the path, `**` for one or more, a segment with a `*` in it is a glob, and any other segment stands
for itself. What lies below a path that ends in a glob or passes through `**` is matched too.
-/

namespace PureLint

namespace Accessor

/-- A segment of a pattern. -/
inductive Segment where
  | literal (t : Text)
  | one
  | deep
  | glob (r : Regex)

def Segment.parse (t : Text) : Except PatternError Segment :=
  if t == ['*'] then .ok .one
  else if t == ['*', '*'] then .ok .deep
  else if t.contains '*' then (Glob.compile t).map .glob
  else .ok (.literal t)

/-- Tries a continuation on what is left of a path after each number of segments, from one on. -/
def anyDrop (f : List Text → Bool) : List Text → Bool
  | [] => false
  | _ :: rest => f rest || anyDrop f rest

/-- Whether segments match a path. With `allowExtra` the path may go on behind them. A `**` takes at
least one segment, unless the path has ended, and lets the path go on. -/
def matchSegments : List Segment → Bool → List Text → Bool
  | [], allowExtra, path => path.isEmpty || allowExtra
  | .deep :: rest, allowExtra, [] => matchSegments rest allowExtra []
  | .deep :: rest, _, path => rest.isEmpty || anyDrop (matchSegments rest true) path
  | .one :: rest, allowExtra, _ :: path => matchSegments rest allowExtra path
  | .literal t :: rest, allowExtra, head :: path => t == head && matchSegments rest allowExtra path
  | .glob r :: rest, allowExtra, head :: path =>
    r.isFound head && matchSegments rest (allowExtra || rest.isEmpty) path
  | _ :: _, _, [] => false

end Accessor

/-- A pattern for paths, with the text it was read from. -/
structure AccessorPattern where
  source : Text
  segments : List Accessor.Segment

namespace AccessorPattern

def parse (source : Text) : Except PatternError AccessorPattern :=
  ((Text.splitOn '.' source).mapM Accessor.Segment.parse).map fun segments => ⟨source, segments⟩

def parseAll (sources : List Text) : Except PatternError (List AccessorPattern) :=
  sources.mapM parse

/-- Whether a pattern matches a path, written with points. -/
def isMatch (p : AccessorPattern) (t : Text) : Bool :=
  Accessor.matchSegments p.segments false (Text.splitOn '.' t)

end AccessorPattern

end PureLint
