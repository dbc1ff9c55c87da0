/-!
# Membership in a table of character ranges

A table lists closed ranges of code points; `inRanges` asks whether a character lies in one of them.
-/

namespace PegCheck.Text

/-- Does the character lie in one of the closed ranges? -/
def inRanges (table : Array (Nat × Nat)) (c : Char) : Bool :=
  table.any fun r => r.1 ≤ c.toNat && c.toNat ≤ r.2

end PegCheck.Text
