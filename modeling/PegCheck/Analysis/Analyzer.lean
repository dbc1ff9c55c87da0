import PegCheck.Analysis.Checks
import PegCheck.SymbolTable.Collect
import PegCheck.SymbolTable.Normalize

/-!
# Analyzing a grammar

An analyzer validates the header of a grammar, collects and sorts its symbol table, and runs the
checks on the table, all into one list of findings.

Headlines:
* **`Analyzer.run`**: the annotated grammar together with all findings.
* **`Analyzer.analyze`**: the annotated grammar, provided that there are no findings at all,
  warnings included.
-/

namespace PegCheck

/-- Why an analysis gives no grammar. -/
inductive AnalysisError where
  | recursionLimitExceeded
  | analysisFailed (findings : Findings)
  deriving DecidableEq, Repr

namespace AnalysisError

/-- The error in words. -/
def message : AnalysisError → String
  | .recursionLimitExceeded => "recursion limit exceeded"
  | .analysisFailed findings => findings.summary

end AnalysisError

/-- The settings of an analysis; no fuel is no bound on the nesting of expressions. -/
structure Analyzer where
  frontEnd : FrontEnd
  params : ImplicitParams := .standard
  fuel : Option Nat := some 4096

namespace Analyzer

/-- The validator of an analyzer. -/
def validator (a : Analyzer) : Validator := ⟨a.frontEnd, a.params⟩

/-- The sorted table of a grammar, without any check. -/
def symbolTable (a : Analyzer) (g : Grammar) : Except AnalysisError SymbolTable :=
  match collect g.declarations a.fuel with
  | .error _ => .error .recursionLimitExceeded
  | .ok table => .ok table.normalize

/-- The grammar with whatever could be annotated, and all findings. -/
def run (a : Analyzer) (g : Grammar) : Except AnalysisError (Grammar × Findings) := do
  let (header, findings) := checkHeader a.validator g.code
  let table ← a.symbolTable g
  let checked := checkCode a.validator (checkUnusedRules (checkNoReductions ⟨table, findings⟩))
  return ({ g with code := header, analysis := some checked.table }, checked.findings)

/-- The annotated grammar, unless anything was found. -/
def analyze (a : Analyzer) (g : Grammar) : Except AnalysisError Grammar := do
  let (g, findings) ← a.run g
  if findings.isEmpty then return g else throw (.analysisFailed findings)

end Analyzer

end PegCheck
