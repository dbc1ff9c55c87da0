import PegCheck.Host.Phrase.Statement

/-!
# The phrases to a depth

Each reader of a phrase is given the readers of what it contains. `phrases n` ties the knot to the
depth `n`: its readers go through at most `n` phrases inside one another. Between two trees that are
used up, only a few phrases open, so a depth in proportion to the number of trees is enough for any
text.

Headlines:
* **`phrases`**: the readers to a depth.
* **`Phrase.read`**: the statements of a whole snippet, or the fault of it.
-/

namespace PegCheck.Host

open Reader

/-- The readers of all phrases to a depth. -/
def phrases : Nat → Phrases
  | 0 =>
    { expression := fun _ => fail .depth
      unary := fun _ => fail .depth
      climb := fun _ _ _ => fail .depth
      statementExpression := fail .depth
      type := fun _ => fail .depth
      bound := fun _ _ => fail .depth
      pattern := fail .depth
      statements := fail .depth
      item := fail .depth
      namedFields := fail .depth
      importTree := fun _ => fail .depth }
  | n + 1 =>
    { expression := fun structs s => Phrase.expression (phrases n) structs s
      unary := fun structs s => Phrase.unary (phrases n) structs s
      climb := fun structs base left s => Phrase.climb (phrases n) structs base left s
      statementExpression := fun s => Phrase.statementExpression (phrases n) s
      type := fun allowSum s => Phrase.typeExpr (phrases n) allowSum s
      bound := fun allowCapture allowConst s => Phrase.bound (phrases n) allowCapture allowConst s
      pattern := fun s => Phrase.pattern (phrases n) s
      statements := fun s => Phrase.statements (phrases n) s
      item := fun s => Phrase.item (phrases n) s
      namedFields := fun s => Phrase.namedFields (phrases n) s
      importTree := fun allowRoot s => Phrase.importTree (phrases n) allowRoot s }

/-- How many phrases can be open inside one another in a list of trees. -/
def depthBound (trees : List Tree) : Nat := 16 * Tree.sizeAll trees + 16

namespace Phrase

/-- The statements of a whole snippet, which has to be used up. Its end counts as its beginning in a
complaint. -/
def read (trees : List Tree) : Except Fault (List Statement) :=
  match statements (phrases (depthBound trees)) ⟨trees, [], .origin, none⟩ with
  | .error fault => .error fault
  | .ok (_, ⟨_, _, _, some fault⟩) => .error fault
  | .ok (_, ⟨tree :: _, _, _, none⟩) => .error ⟨.alternatives [], false, tree.place⟩
  | .ok (statements, ⟨[], _, _, none⟩) => .ok statements

end Phrase

end PegCheck.Host
