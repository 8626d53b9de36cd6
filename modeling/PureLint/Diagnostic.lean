import PureLint.Text.Basic

/-!
# Diagnostics

What a rule reports: where, why and how seriously, with replacements that mend it and others that
are only offered.
-/

namespace PureLint

inductive Severity where
  | error | warning
deriving DecidableEq, Repr

def Severity.word : Severity → String
  | error => "error"
  | warning => "warning"

/-- A replacement of the bytes from `start` up to `stop`. -/
structure Fix where
  start : Nat
  stop : Nat
  replacement : Text
  message : Option String := none
deriving DecidableEq, Repr

namespace Fix

def replace (s : Span) (replacement : Text) : Fix :=
  { start := s.start, stop := s.stop, replacement }

/-- Puts a text before a byte. -/
def insert (pos : Nat) (replacement : Text) : Fix := { start := pos, stop := pos, replacement }

/-- Whether nothing is removed. -/
def isInsertion (f : Fix) : Bool := f.start == f.stop

end Fix

/-- Replacements that are offered but not made. -/
structure Suggestion where
  id : String
  message : String
  fixes : List Fix
deriving DecidableEq, Repr

/-- A report. -/
structure Diagnostic where
  rule : String
  id : String
  span : Span
  message : String
  help : Option String := none
  severity : Severity := .error
  fixes : List Fix := []
  suggestions : List Suggestion := []
deriving DecidableEq, Repr

namespace Diagnostic

def plain (rule id : String) (span : Span) (message : String) : Diagnostic :=
  { rule, id, span, message }

def isFixable (d : Diagnostic) : Bool := !d.fixes.isEmpty

def withSeverity (d : Diagnostic) (s : Severity) : Diagnostic := { d with severity := s }

end Diagnostic

end PureLint
