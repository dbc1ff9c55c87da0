import PegCheck.Proofs.SymbolTable.Traversal
import PegCheck.Analysis.Analyzer

/-!
# The table of a grammar

The sorted table of a grammar, in terms of the grammar alone: its declarations by position, the
referenced names by their smallest position with all their positions in ascending order, and the
combinators that occur.

* `Grammar.ordered`: the declarations by position, those that share one in their order.
* `normalize_collected`: sorting the collected table gives `Grammar.table`. Both sides sort the same
  keys, so the sorts are moved across the maps.
* **`symbolTable_eq`**: an analyzer gives this table, or reports that the recursion limit was hit if
  some declaration nests deeper than its fuel.
* `isDeclared_table`, `isReferenced_table`: the two queries on which the checks rest.
-/

namespace PegCheck

namespace Grammar

/-- The declarations by position; those that share one keep their order. -/
def ordered (g : Grammar) : List Declaration := g.declarations.mergeSort fun d e => d.index ≤ e.index

/-- The referenced names by their smallest position, each with its positions in ascending order. -/
def referenceGroups (g : Grammar) : List ReferenceGroup :=
  g.references.ordered.map fun name => ⟨name, g.references.occurrences name⟩

/-- The sorted table of a grammar. -/
def table (g : Grammar) : SymbolTable where
  rules := g.ordered.map Declaration.rule
  references := g.referenceGroups
  combinators := g.combinators

theorem mem_ordered {g : Grammar} {d : Declaration} : d ∈ g.ordered ↔ d ∈ g.declarations :=
  (List.mergeSort_perm _ _).mem_iff

/-! ## Sorting the collected table -/

theorem rules_ordered (g : Grammar) :
    g.ordered.map Declaration.rule =
      (g.declarations.map Declaration.rule).mergeSort fun a b => a.index ≤ b.index := by
  unfold ordered
  exact List.map_mergeSort fun _ _ _ _ => rfl

theorem groups_ordered (g : Grammar) :
    g.referenceGroups =
      (g.references.groups.map ReferenceGroup.normalize).mergeSort
        fun a b => firstLe a.occurrences.head? b.occurrences.head? := by
  unfold referenceGroups References.ordered References.groups
  rw [List.map_mergeSort, List.map_map]
  · rfl
  · exact fun _ _ _ _ => rfl

theorem normalize_collected (g : Grammar) : g.collected.normalize = g.table := by
  rw [table, rules_ordered, groups_ordered]
  rfl

/-! ## Queries -/

theorem isDeclared_table (g : Grammar) (name : String) :
    g.table.isDeclared name = decide (name ∈ g.declarations.map (·.name)) := by
  rw [Bool.eq_iff_iff, decide_eq_true_iff, SymbolTable.isDeclared, SymbolTable.rule,
    List.find?_isSome]
  simp only [table, List.mem_map, beq_iff_eq]
  constructor
  · rintro ⟨_, ⟨d, hd, rfl⟩, hname⟩
    exact ⟨d, mem_ordered.mp hd, hname⟩
  · rintro ⟨d, hd, hname⟩
    exact ⟨_, ⟨d, mem_ordered.mpr hd, rfl⟩, hname⟩

theorem isReferenced_table (g : Grammar) (name : String) :
    g.table.isReferenced name = decide (name ∈ g.references.map (·.name)) := by
  rw [Bool.eq_iff_iff, decide_eq_true_iff, SymbolTable.isReferenced, SymbolTable.group,
    List.find?_isSome, List.mem_map, ← References.mem_ordered]
  simp only [table, referenceGroups, List.mem_map, beq_iff_eq]
  constructor
  · rintro ⟨_, ⟨n, hn, rfl⟩, hname⟩
    exact hname ▸ hn
  · exact fun h => ⟨_, ⟨name, h, rfl⟩, rfl⟩

end Grammar

/-- **An analyzer's table** is the table of the grammar, unless the fuel does not last. -/
theorem Analyzer.symbolTable_eq (a : Analyzer) (g : Grammar) :
    a.symbolTable g =
      if g.fits a.fuel then .ok g.table else .error .recursionLimitExceeded := by
  unfold symbolTable
  rw [g.collect_eq a.fuel]
  cases g.fits a.fuel with
  | false => rfl
  | true => exact congrArg Except.ok g.normalize_collected

end PegCheck
