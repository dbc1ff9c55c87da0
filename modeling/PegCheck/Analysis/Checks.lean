import PegCheck.Analysis.Validate
import PegCheck.SymbolTable.Basic

/-!
# Checks of a symbol table

Each check takes a table and the findings so far. It appends its own findings and never drops any,
and only the check of action code changes the table.

Headlines:
* **`checkNoReductions`**: every referenced name has a rule.
* **`checkUnusedRules`**: every rule but the first is referenced.
* **`checkCode`**: the action code of every rule is valid, and valid code gets its annotations.
-/

namespace PegCheck

/-- A table and the findings about it. -/
structure Checked where
  table : SymbolTable
  findings : Findings
  deriving DecidableEq, Repr

/-- Reports every referenced name without a rule, with all its occurrences. -/
def checkNoReductions (c : Checked) : Checked :=
  let undeclared := c.table.references.filter fun g => !c.table.isDeclared g.name
  { c with findings := c.findings ++ undeclared.map fun g =>
      .ofCause (.noReduction g.name g.occurrences) }

/-- Reports every rule after the first whose name is nowhere referenced. -/
def checkUnusedRules (c : Checked) : Checked :=
  let unused := (c.table.rules.drop 1).filter fun r => !c.table.isReferenced r.name
  { c with findings := c.findings ++ unused.map fun r => .ofCause (.unusedRule r.name r.index) }

/-- A rule whose code has been validated. -/
def Validator.annotate (v : Validator) (r : Rule) : Rule :=
  match v.validate r.code with
  | .annotated block => { r with code := some block }
  | _ => r

/-- The finding about the code of a rule, if there is one. -/
def Validator.finding? (v : Validator) (code : Option CodeBlock) : Option Finding :=
  match v.validate code with
  | .failed f => some f
  | _ => none

/-- Validates the code of every rule: valid code is annotated in place, and a fault is reported. -/
def checkCode (v : Validator) (c : Checked) : Checked :=
  { table := { c.table with rules := c.table.rules.map v.annotate }
    findings := c.findings ++ c.table.rules.filterMap fun r => v.finding? r.code }

/-- Validates the code of the header. Faulty code is returned as it is. -/
def checkHeader (v : Validator) (code : Option CodeBlock) : Option CodeBlock × Findings :=
  match v.validate code with
  | .unchanged => (code, [])
  | .annotated block => (some block, [])
  | .failed f => (code, [f])

end PegCheck
