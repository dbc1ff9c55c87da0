import PegCheck.Host.Code

/-!
# Validating a code block

`Validator.validate` runs a front end on a code block. A valid block gets annotations; an absent or
identity block is left alone.

Headlines:
* **`Outcome`**: unchanged, annotated, or failed with a finding.
-/

namespace PegCheck

/-- What came of validating one block. -/
inductive Outcome where
  | unchanged
  | annotated (block : CodeBlock)
  | failed (finding : Finding)
  deriving DecidableEq, Repr

/-- A host language and the parameters that its code may use. -/
structure Validator where
  frontEnd : FrontEnd
  params : ImplicitParams

namespace Validator

/-- The facts that a front end gives about a block that it accepts. -/
def facts (v : Validator) (block : CodeBlock) (parsed : ParsedCode) : CodeAnnotations where
  parsed := parsed.forms
  comments := v.frontEnd.comments block.code block.index
  usedArgs := v.params.usedIn parsed.tokens

/-- Validates a block; whatever annotations it carries play no part. -/
def validate (v : Validator) : Option CodeBlock → Outcome
  | none => .unchanged
  | some block =>
    if block.identity then .unchanged
    else
      match v.frontEnd.parse block.code block.index with
      | .error e => .failed e.toFinding
      | .ok parsed => .annotated { block with annotations := some (v.facts block parsed) }

end Validator

end PegCheck
