import PegCheck.Position

/-!
# Findings

A finding is what a check reports: a cause with the data it needs, and a severity. The severity of a
cause can be overridden, and counts follow the severity.

Headlines:
* **`Cause.message`**: the wording of every cause.
* **`Finding.render`**: severity, position and message, with the further occurrences of an
  undeclared name.
-/

namespace PegCheck

/-- How bad a finding is. -/
inductive Severity where
  | error
  | warning
  deriving DecidableEq, Repr, Inhabited

/-- The name of a severity. -/
def Severity.name : Severity → String
  | .error => "error"
  | .warning => "warning"

/-- What is wrong: a referenced name has no rule, a rule is never referenced, or action code is not
made of tokens or not made of statements. -/
inductive Cause where
  | noReduction (name : String) (occurrences : List Position)
  | unusedRule (name : String) (index : Position)
  | hostSyntaxError (info : String) (location : Position)
  | hostParseError (reason : String) (location : Position)
  deriving DecidableEq, Repr, Inhabited

namespace Cause

/-- The severity that a cause has unless it is overridden: only an unused rule is a warning. -/
def defaultSeverity : Cause → Severity
  | .unusedRule .. => .warning
  | _ => .error

/-- The name of a cause for tools. -/
def tag : Cause → String
  | .noReduction .. => "no_reduction"
  | .unusedRule .. => "unused_rule"
  | .hostSyntaxError .. => "host_syntax_error"
  | .hostParseError .. => "host_parse_error"

/-- Where a cause points: an undeclared name at its first occurrence, at line and column zero if it
has none. -/
def location : Cause → Position
  | .noReduction _ occurrences => occurrences.head?.getD ⟨0, 0⟩
  | .unusedRule _ index => index
  | .hostSyntaxError _ location => location
  | .hostParseError _ location => location

/-- The further places of a cause. -/
def otherLocations : Cause → List Position
  | .noReduction _ occurrences => occurrences.drop 1
  | _ => []

/-- How many characters a cause marks, at least one. -/
def spanWidth : Cause → Nat
  | .noReduction name _ => max name.length 1
  | .unusedRule name _ => max name.length 1
  | _ => 1

/-- A cause in words. -/
def message : Cause → String
  | .noReduction name _ => "no reduction for nonterminal `" ++ name ++ "`"
  | .unusedRule name _ => "rule `" ++ name ++ "` is never used"
  | .hostSyntaxError info _ => "invalid action code: " ++ info
  | .hostParseError reason _ => "action code does not parse: " ++ reason

end Cause

/-- A cause with its severity. -/
structure Finding where
  severity : Severity
  cause : Cause
  deriving DecidableEq, Repr, Inhabited

namespace Finding

/-- A cause with its default severity. -/
def ofCause (c : Cause) : Finding := ⟨c.defaultSeverity, c⟩

/-- Is the finding an error? -/
def isError (f : Finding) : Bool := f.severity == .error

/-- Is the finding a warning? -/
def isWarning (f : Finding) : Bool := f.severity == .warning

/-- A finding on one line. -/
def render (f : Finding) : String :=
  f.severity.name ++ " at " ++ f.cause.location.render ++ ": " ++ f.cause.message
    ++ String.join (f.cause.otherLocations.map fun p => " (also at " ++ p.render ++ ")")

end Finding

/-- Findings in the order in which they were made. -/
abbrev Findings := List Finding

namespace Findings

/-- The number of errors. -/
def errorCount (fs : Findings) : Nat := fs.countP Finding.isError

/-- The number of warnings. -/
def warningCount (fs : Findings) : Nat := fs.countP Finding.isWarning

/-- The findings of a severity. -/
def ofSeverity (fs : Findings) (s : Severity) : Findings := fs.filter (·.severity == s)

/-- Findings one below the other. -/
def render (fs : Findings) : String := "\n".intercalate (fs.map Finding.render)

/-- What is said of an analysis that failed with these findings. -/
def summary (fs : Findings) : String :=
  "grammar analysis failed with " ++ toString fs.errorCount ++ " errors and "
    ++ toString fs.warningCount ++ " warnings"

end Findings

end PegCheck
