import Mathlib
import PegCheck.Proofs.SymbolTable.Canonical
import PegCheck.Host.Words

/-!
# What the queries of a table answer

A table is asked for rules and references without a look at the tree. The answers are those that the
tree gives: which declaration comes first, where a name is referenced, which combinators occur.

* `SymbolTable.Describes`: the answers of a table, in terms of a grammar's declarations and nodes.
* `Grammar.find?_rules_table`: a search among the sorted rules is a search for the least position
  among the declarations; both `entryPoint` and `rule` are such searches.
* `Grammar.occurrences_table`: the answer about references, whatever the name.
* `References.sum_length_occurrences`: nothing is lost or doubled when references are grouped.
* **`Analyzer.symbolTable_describes`**: the table that an analyzer gives describes the grammar.
-/

namespace PegCheck

/-- Of all declarations with the property, `d` is the one with the least index, and of several at
that index the one declared first. -/
def Grammar.IsFirst (g : Grammar) (p : Declaration → Bool) (d : Declaration) : Prop :=
  PegCheck.IsFirst Declaration.index p g.declarations d

/-- The answers of a table are those that the tree of a grammar gives. -/
structure SymbolTable.Describes (t : SymbolTable) (g : Grammar) : Prop where
  /-- Parsing starts from the declaration with the least index. -/
  entryPoint : ∀ r, t.entryPoint = some r ↔ ∃ d, g.IsFirst (fun _ => true) d ∧ r = d.rule
  /-- Only a grammar without declarations has nothing to start from. -/
  entryPoint_none : t.entryPoint = none ↔ g.declarations = []
  /-- The rule of a name is its declaration with the least index. -/
  rule : ∀ name r,
    t.rule name = some r ↔ ∃ d, g.IsFirst (fun d => d.name == name) d ∧ r = d.rule
  isDeclared : ∀ name, t.isDeclared name = true ↔ ∃ d ∈ g.declarations, d.name = name
  isReferenced : ∀ name,
    t.isReferenced name = true ↔ ∃ d ∈ g.declarations, ∃ p, .nonterminal name p ∈ d.nodes
  /-- The references of a name are all there, each as often as it occurs … -/
  occurrences_perm : ∀ name, (t.occurrences name).Perm (g.references.positions name)
  /-- … and in ascending order. -/
  occurrences_ascending : ∀ name, (t.occurrences name).Pairwise (· ≤ ·)
  occurrences_ne_nil : ∀ name, t.occurrences name ≠ [] ↔ t.isReferenced name = true
  uses : ∀ c, t.uses c = true ↔ ∃ d ∈ g.declarations, ∃ e ∈ d.nodes, e.combinator? = some c
  /-- There are as many positions in the table as there are references in the tree. -/
  sum_occurrences :
    (t.references.map fun group => group.occurrences.length).sum =
      g.nodes.countP fun e => e.reference?.isSome

/-! ## References -/

namespace References

theorem length_positions (rs : References) (name : String) :
    (rs.positions name).length = (rs.map (·.name)).count name := by
  rw [positions, List.length_map, ← List.countP_eq_length_filter, List.count, List.countP_map]
  rfl

/-- **Grouping loses nothing**: the groups of all names have as many positions as there are
references. -/
theorem sum_length_occurrences (rs : References) :
    (rs.ordered.map fun name => (rs.occurrences name).length).sum = rs.length := by
  have hlength : ∀ name, (rs.occurrences name).length = (rs.map (·.name)).count name :=
    fun name => (rs.occurrences_perm name).length_eq.trans (rs.length_positions name)
  have hperm : rs.ordered.Perm (rs.map (·.name)).dedup := by
    refine (List.perm_ext_iff_of_nodup rs.nodup_ordered (List.nodup_dedup _)).mpr fun name => ?_
    rw [mem_ordered, List.mem_dedup, List.mem_map]
  calc (rs.ordered.map fun name => (rs.occurrences name).length).sum
      = (rs.ordered.map fun name => (rs.map (·.name)).count name).sum := by simp only [hlength]
    _ = ((rs.map (·.name)).dedup.map fun name => (rs.map (·.name)).count name).sum :=
        (hperm.map _).sum_eq
    _ = (rs.map (·.name)).length := List.sum_map_count_dedup_eq_length _
    _ = rs.length := List.length_map _

end References

namespace Grammar

/-! ## Searches -/

/-- **A search among the rules** of the table finds the declaration with the least index. -/
theorem find?_rules_table (g : Grammar) (p : Rule → Bool) (r : Rule) :
    g.table.rules.find? p = some r ↔ ∃ d, g.IsFirst (fun d => p d.rule) d ∧ r = d.rule := by
  rw [table, List.find?_map, Option.map_eq_some_iff]
  refine exists_congr fun d => and_congr ?_ eq_comm
  exact find?_mergeSort_eq_some_iff

theorem entryPoint_eq_find? (t : SymbolTable) : t.entryPoint = t.rules.find? fun _ => true := by
  unfold SymbolTable.entryPoint
  cases t.rules <;> rfl

theorem entryPoint_table_eq_none (g : Grammar) :
    g.table.entryPoint = none ↔ g.declarations = [] := by
  have hlength : g.table.rules.length = g.declarations.length := by
    simp only [table, ordered, List.length_map, List.length_mergeSort]
  rw [SymbolTable.entryPoint, List.head?_eq_none_iff, ← List.length_eq_zero_iff, hlength,
    List.length_eq_zero_iff]

/-- The table has a group for every name that is referenced, and no other. -/
theorem group_table (g : Grammar) (name : String) :
    g.table.group name =
      if name ∈ g.references.ordered then some ⟨name, g.references.occurrences name⟩ else none :=
  SymbolTable.find?_groups name g.references.occurrences g.references.ordered

/-- **The references of a name** are its occurrences, none if it is not referenced. -/
theorem occurrences_table (g : Grammar) (name : String) :
    g.table.occurrences name = g.references.occurrences name := by
  unfold SymbolTable.occurrences
  rw [group_table]
  by_cases hmem : name ∈ g.references.ordered
  · rw [if_pos hmem]
    rfl
  · have hnil : g.references.positions name = [] :=
      References.positions_eq_nil (mt g.references.ordered_perm.mem_iff.mpr hmem)
    rw [if_neg hmem, References.occurrences, hnil, List.mergeSort_nil]
    rfl

theorem occurrences_table_ne_nil (g : Grammar) (name : String) :
    g.table.occurrences name ≠ [] ↔ g.table.isReferenced name = true := by
  rw [occurrences_table, isReferenced_table, decide_eq_true_iff, List.mem_map]
  constructor
  · intro hne
    obtain ⟨p, hp⟩ := List.exists_mem_of_ne_nil _ hne
    exact ⟨⟨name, p⟩, References.mem_occurrences.mp hp, rfl⟩
  · rintro ⟨⟨_, p⟩, hr, rfl⟩
    exact List.ne_nil_of_mem (References.mem_occurrences.mpr hr)

theorem uses_table (g : Grammar) (c : Combinator) :
    g.table.uses c = true ↔ ∃ d ∈ g.declarations, ∃ e ∈ d.nodes, e.combinator? = some c := by
  rw [SymbolTable.uses, OrderedSet.contains_iff, table, combinators, OrderedSet.mem_ofList,
    List.mem_filterMap]
  constructor
  · rintro ⟨e, he, hc⟩
    obtain ⟨d, hd, hnode⟩ := mem_nodes.mp he
    exact ⟨d, hd, e, hnode, hc⟩
  · rintro ⟨d, hd, e, hnode, hc⟩
    exact ⟨e, mem_nodes.mpr ⟨d, hd, hnode⟩, hc⟩

theorem sum_occurrences_table (g : Grammar) :
    (g.table.references.map fun group => group.occurrences.length).sum =
      g.nodes.countP fun e => e.reference?.isSome := by
  rw [table, referenceGroups, List.map_map, ← List.length_filterMap_eq_countP]
  exact g.references.sum_length_occurrences

/-- The sorted table of a grammar describes it. -/
theorem table_describes (g : Grammar) : g.table.Describes g where
  entryPoint r := by
    rw [entryPoint_eq_find?]
    exact g.find?_rules_table _ r
  entryPoint_none := g.entryPoint_table_eq_none
  rule name r := g.find?_rules_table _ r
  isDeclared name := by rw [isDeclared_table, decide_eq_true_iff, List.mem_map]
  isReferenced name := by
    rw [isReferenced_table, decide_eq_true_iff]
    exact mem_map_references
  occurrences_perm name := g.occurrences_table name ▸ g.references.occurrences_perm name
  occurrences_ascending name := by
    rw [occurrences_table]
    refine (List.pairwise_mergeSort (keyLe_trans id) (keyLe_total id) _).imp fun h => ?_
    exact of_decide_eq_true h
  occurrences_ne_nil := g.occurrences_table_ne_nil
  uses := g.uses_table
  sum_occurrences := g.sum_occurrences_table

end Grammar

/-! ## The table of an analyzer -/

/-- **The table that an analyzer gives** answers every query as the tree does. -/
theorem Analyzer.symbolTable_describes {a : Analyzer} {g : Grammar} {t : SymbolTable}
    (h : a.symbolTable g = .ok t) : t.Describes g := by
  rw [symbolTable_eq] at h
  by_cases hfits : g.fits a.fuel = true
  · rw [if_pos hfits] at h
    obtain rfl := Except.ok.inj h
    exact g.table_describes
  · rw [if_neg hfits] at h
    nomatch h

/-- Two declarations share their name and their index, and two references share their position. -/
def tiedGrammar : Grammar where
  declarations :=
    [{ name := "late", index := ⟨4, 1⟩, expr := .nonterminal "a" ⟨4, 9⟩ },
      { name := "a", index := ⟨2, 1⟩, code := some (.passThrough ⟨2, 30⟩)
        expr := .sequence [.nonterminal "x" ⟨3, 3⟩, .nonterminal "a" ⟨2, 9⟩,
          .primary (.nonterminal "a" ⟨2, 9⟩) (some .not)] },
      { name := "a", index := ⟨2, 1⟩, expr := .any }]

/-- An analyzer that can be asked for tables. -/
def plainAnalyzer : Analyzer where
  frontEnd := Words.frontEnd []

theorem Analyzer.symbolTable_describes_sample :
    plainAnalyzer.symbolTable tiedGrammar = .ok tiedGrammar.table ∧
      tiedGrammar.table.Describes tiedGrammar ∧
      tiedGrammar.table.entryPoint = some ⟨"a", ⟨2, 1⟩, some (.passThrough ⟨2, 30⟩)⟩ ∧
      tiedGrammar.table.occurrences "a" = [⟨2, 9⟩, ⟨2, 9⟩, ⟨4, 9⟩] := by
  have htable : plainAnalyzer.symbolTable tiedGrammar = .ok tiedGrammar.table := by
    rw [symbolTable_eq, if_pos (by decide)]
  exact ⟨htable, symbolTable_describes htable, by cbv, by cbv⟩

end PegCheck
