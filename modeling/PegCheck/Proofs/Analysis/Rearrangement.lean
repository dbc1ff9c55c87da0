import PegCheck.Proofs.Analysis.Run
import PegCheck.Proofs.Grammar.Rearranged

/-!
# Analysis does not see the order of the tree

The order in which declarations are listed and children are visited shows in the collected table
three times: in the rules, in the groups of references and in the occurrences of a group. Sorting
erases each of them, provided that the keys tell the entries apart: no two declarations at one
position, and no two references at one position.

* `rules_eq`, `referenceGroups_eq`: the parts of the table.
* **`run_rearranged`**: rearranged grammars have the same table and the same run, but for the
  declarations that they keep.
-/

namespace PegCheck

namespace Grammar.Rearranged

variable {g h : Grammar}

theorem rules_eq (hr : g.Rearranged h) (hindex : (g.declarations.map (·.index)).Nodup) :
    g.ordered.map Declaration.rule = h.ordered.map Declaration.rule := by
  have hperm : (g.declarations.map Declaration.rule).Perm (h.declarations.map Declaration.rule) :=
    hr.map_declarations_perm fun hd => by
      rw [Declaration.rule, Declaration.rule, hd.name, hd.index, hd.code]
  rw [rules_ordered, rules_ordered]
  refine mergeSort_key_eq_of_perm Rule.index hperm ?_
  rw [List.map_map]
  exact hindex

theorem referenceGroups_eq (hr : g.Rearranged h) (hpos : (g.references.map (·.index)).Nodup) :
    g.referenceGroups = h.referenceGroups := by
  unfold referenceGroups
  rw [References.ordered_eq_of_perm hr.references_perm hpos]
  exact List.map_congr_left fun name _ => by
    rw [References.occurrences_eq_of_perm hr.references_perm]

theorem table_eq (hr : g.Rearranged h) (hindex : (g.declarations.map (·.index)).Nodup)
    (hpos : (g.references.map (·.index)).Nodup) : g.table = h.table := by
  rw [table, table, hr.rules_eq hindex, hr.referenceGroups_eq hpos, hr.combinators_eq]

end Grammar.Rearranged

namespace Analyzer

theorem symbolTable_rearranged (a : Analyzer) {g h : Grammar} (hr : g.Rearranged h)
    (hindex : (g.declarations.map (·.index)).Nodup) (hpos : (g.references.map (·.index)).Nodup) :
    a.symbolTable g = a.symbolTable h := by
  rw [symbolTable_eq, symbolTable_eq, hr.table_eq hindex hpos, hr.fits_eq]

/-- **Rearranged grammars are analyzed alike**, if no two declarations and no two references share a
position: they have the same table, or both nest too deep; and a run gives them the same header, the
same table and the same findings, and leaves each its declarations. -/
theorem run_rearranged (a : Analyzer) (g h : Grammar) (hr : g.Rearranged h)
    (hindex : (g.declarations.map (·.index)).Nodup) (hpos : (g.references.map (·.index)).Nodup) :
    a.symbolTable g = a.symbolTable h ∧
    a.run h = (a.run g).map fun (g', findings) =>
      ({ g' with declarations := h.declarations }, findings) := by
  have htable := a.symbolTable_rearranged hr hindex hpos
  refine ⟨htable, ?_⟩
  -- A run reads the declarations through the table only.
  unfold run
  rw [htable, hr.code]
  cases a.symbolTable h with
  | error e => rfl
  | ok table => rfl

end Analyzer

/-- A grammar of two declarations; the first refers to the second twice and to no rule once. -/
def tidyGrammar : Grammar where
  declarations :=
    [{ name := "start", index := ⟨1, 1⟩
       expr := .sequence [.nonterminal "a" ⟨1, 10⟩,
        .choice [.nonterminal "b" ⟨1, 15⟩, .nonterminal "a" ⟨1, 20⟩]] },
      { name := "a", index := ⟨2, 1⟩, expr := .literal "x" }]

/-- The same grammar with its declarations and all children in the opposite order. -/
def shuffledGrammar : Grammar where
  declarations :=
    [{ name := "a", index := ⟨2, 1⟩, expr := .literal "x" },
      { name := "start", index := ⟨1, 1⟩
        expr := .sequence [.choice [.nonterminal "a" ⟨1, 20⟩, .nonterminal "b" ⟨1, 15⟩],
          .nonterminal "a" ⟨1, 10⟩] }]

theorem tidyGrammar_rearranged : tidyGrammar.Rearranged shuffledGrammar := by
  have hchoice : Expr.Rearranged (.choice [.nonterminal "b" ⟨1, 15⟩, .nonterminal "a" ⟨1, 20⟩])
      (.choice [.nonterminal "a" ⟨1, 20⟩, .nonterminal "b" ⟨1, 15⟩]) :=
    .choice (.cons (.nonterminal ..) (.cons (.nonterminal ..) .nil)) (.swap ..)
  have hbody : Expr.Rearranged
      (.sequence [.nonterminal "a" ⟨1, 10⟩,
        .choice [.nonterminal "b" ⟨1, 15⟩, .nonterminal "a" ⟨1, 20⟩]])
      (.sequence [.choice [.nonterminal "a" ⟨1, 20⟩, .nonterminal "b" ⟨1, 15⟩],
        .nonterminal "a" ⟨1, 10⟩]) :=
    .sequence (.cons (.nonterminal ..) (.cons hchoice .nil)) (.swap ..)
  refine ⟨⟨shuffledGrammar.declarations.reverse, ?_, List.reverse_perm _⟩, rfl, rfl⟩
  exact .cons ⟨rfl, rfl, rfl, hbody⟩ (.cons ⟨rfl, rfl, rfl, .terminal ..⟩ .nil)

namespace Analyzer

theorem run_rearranged_sample :
    tidyGrammar.Rearranged shuffledGrammar ∧
    (tidyGrammar.declarations.map (·.index)).Nodup ∧
    (tidyGrammar.references.map (·.index)).Nodup ∧
    sampleAnalyzer.symbolTable tidyGrammar = sampleAnalyzer.symbolTable shuffledGrammar ∧
    sampleAnalyzer.run shuffledGrammar = (sampleAnalyzer.run tidyGrammar).map fun (g', findings) =>
      ({ g' with declarations := shuffledGrammar.declarations }, findings) :=
  have hindex : (tidyGrammar.declarations.map (·.index)).Nodup := by decide
  have hpos : (tidyGrammar.references.map (·.index)).Nodup := by decide
  ⟨tidyGrammar_rearranged, hindex, hpos,
    run_rearranged sampleAnalyzer tidyGrammar shuffledGrammar tidyGrammar_rearranged hindex hpos⟩

end Analyzer

end PegCheck
