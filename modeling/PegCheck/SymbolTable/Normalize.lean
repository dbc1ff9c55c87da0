import PegCheck.SymbolTable.Basic

/-!
# The order of a symbol table

`SymbolTable.normalize` sorts the rules by position, each list of occurrences, and the groups of
references by their first occurrence, an empty group first. All three sorts are stable.

Headlines:
* **`SymbolTable.normalize`**: the sorted table.
-/

namespace PegCheck

/-- The order of first occurrences: nothing comes before everything. -/
def firstLe : Option Position → Option Position → Bool
  | none, _ => true
  | some _, none => false
  | some a, some b => a ≤ b

namespace ReferenceGroup

/-- The group with its occurrences in ascending order. -/
def normalize (g : ReferenceGroup) : ReferenceGroup :=
  { g with occurrences := g.occurrences.mergeSort (fun a b => a ≤ b) }

end ReferenceGroup

namespace SymbolTable

/-- The table in its canonical order. -/
def normalize (t : SymbolTable) : SymbolTable :=
  { t with
    rules := t.rules.mergeSort (fun a b => a.index ≤ b.index)
    references := (t.references.map ReferenceGroup.normalize).mergeSort
      (fun a b => firstLe a.occurrences.head? b.occurrences.head?) }

end SymbolTable

end PegCheck
