import PegCheck.Proofs.Analysis.Rerun

/-!
# Passes in any order

A table is put in order, checked for names in two ways, and has its code validated. These four
passes may come in any order and any number of times, on any table, sorted or not, and with any
findings already there. Each only adds to the findings. Of the table, two of the passes change
nothing, and the other two change things that have nothing to do with each other: sorting moves
whole rules by a key that validating does not touch, and validating a rule depends on nothing but
the rule.

* `Pass.apply`, `Pass.applyAll`: one pass, and a sequence of them.
* `normalize_normalize`, `annotated_annotated`, `annotated_normalize`: sorting and validating do
  nothing a second time, and they commute.
* **`Pass.applyAll_spec`**: what is left of the order and the repetitions in a sequence of passes.
-/

namespace PegCheck

/-! ## Sorting a table -/

namespace ReferenceGroup

theorem normalize_normalize (g : ReferenceGroup) : g.normalize.normalize = g.normalize := by
  have hsorted := List.pairwise_mergeSort (keyLe_trans id) (keyLe_total id) g.occurrences
  exact congrArg (ReferenceGroup.mk g.name) (List.mergeSort_of_pairwise hsorted)

end ReferenceGroup

namespace SymbolTable

/-- Sorting a sorted table changes nothing. -/
theorem normalize_normalize (t : SymbolTable) : t.normalize.normalize = t.normalize := by
  have hrules := List.pairwise_mergeSort (keyLe_trans Rule.index) (keyLe_total Rule.index) t.rules
  have hfirst := List.pairwise_mergeSort firstLe_groups_trans firstLe_groups_total
    (t.references.map ReferenceGroup.normalize)
  -- Every group of the sorted table is in order already, so its key is the one it was sorted by.
  have hgroups : t.normalize.references.map ReferenceGroup.normalize = t.normalize.references := by
    refine (List.map_congr_left fun g hg => ?_).trans (List.map_id _)
    obtain ⟨g, -, rfl⟩ := List.mem_map.mp ((List.mergeSort_perm _ _).mem_iff.mp hg)
    exact g.normalize_normalize
  rw [normalize, hgroups]
  exact congrArg₂ (SymbolTable.mk · · t.combinators) (List.mergeSort_of_pairwise hrules)
    (List.mergeSort_of_pairwise hfirst)

/-- The table with the code of its rules validated: valid code has its annotations. -/
def annotated (v : Validator) (t : SymbolTable) : SymbolTable :=
  { t with rules := t.rules.map v.annotate }

variable (v : Validator) (t : SymbolTable)

/-- Validating leaves alone what the rules are sorted by. -/
theorem index_annotate (r : Rule) : (v.annotate r).index = r.index := by
  rw [show v = Analyzer.validator ⟨v.frontEnd, v.params, none⟩ from rfl, Analyzer.annotate_eq]

/-- A second look at a rule changes nothing more. -/
theorem annotate_annotate (r : Rule) : v.annotate (v.annotate r) = v.annotate r := by
  rw [show v = Analyzer.validator ⟨v.frontEnd, v.params, none⟩ from rfl, Analyzer.annotate_eq,
    Analyzer.annotate_eq, Option.map_map]
  exact congrArg (fun f => Rule.mk r.name r.index (r.code.map f))
    (funext (Analyzer.settled_settled ⟨v.frontEnd, v.params, none⟩))

theorem annotated_annotated : (t.annotated v).annotated v = t.annotated v := by
  have hrules : (t.rules.map v.annotate).map v.annotate = t.rules.map v.annotate := by
    rw [List.map_map]
    exact List.map_congr_left fun r _ => annotate_annotate v r
  exact congrArg (fun rules => { t with rules }) hrules

/-- **Sorting and validating commute.** -/
theorem annotated_normalize : t.normalize.annotated v = (t.annotated v).normalize := by
  have hrules : (t.rules.mergeSort fun a b => a.index ≤ b.index).map v.annotate =
      (t.rules.map v.annotate).mergeSort fun a b => a.index ≤ b.index :=
    List.map_mergeSort fun a _ b _ => by rw [index_annotate, index_annotate]
  exact congrArg (fun rules => { t.normalize with rules }) hrules

end SymbolTable

/-! ## Sequences of passes -/

/-- The passes over a table and the findings about it. -/
inductive Pass where
  | normalize
  | noReductions
  | unusedRules
  | code
  deriving DecidableEq, Repr

namespace Pass

/-- One pass. -/
def apply (v : Validator) (c : Checked) : Pass → Checked
  | normalize => { c with table := c.table.normalize }
  | noReductions => checkNoReductions c
  | unusedRules => checkUnusedRules c
  | code => checkCode v c

/-- Passes one after the other. -/
def applyAll (v : Validator) (c : Checked) (passes : List Pass) : Checked :=
  passes.foldl (apply v) c

/-- The table with sorting and validating done or not. -/
def finished (v : Validator) (t : SymbolTable) (validates sorts : Bool) : SymbolTable :=
  let sorted := if sorts then t.normalize else t
  if validates then sorted.annotated v else sorted

variable (v : Validator)

/-- **No pass drops or moves a finding.** -/
theorem findings_prefix_apply (c : Checked) (p : Pass) :
    c.findings <+: (p.apply v c).findings := by
  cases p with
  | normalize => exact List.prefix_rfl
  | noReductions => exact List.prefix_append ..
  | unusedRules => exact List.prefix_append ..
  | code => exact List.prefix_append ..

/-- One pass more on a table that has some passes behind it. -/
theorem table_apply (c : Checked) (t : SymbolTable) (validates sorts : Bool) (p : Pass)
    (h : c.table = finished v t validates sorts) :
    (p.apply v c).table = finished v t (validates || p == code) (sorts || p == normalize) := by
  obtain ⟨_, findings⟩ := c
  subst h
  cases p with
  | normalize =>
    cases validates with
    | false =>
      cases sorts with
      | false => rfl
      | true => exact t.normalize_normalize
    | true =>
      -- Sorting comes after validating here, so it is moved in front of it.
      cases sorts with
      | false => exact (SymbolTable.annotated_normalize v t).symm
      | true =>
        exact (SymbolTable.annotated_normalize v t.normalize).symm.trans
          (congrArg (SymbolTable.annotated v) t.normalize_normalize)
  | noReductions => cases validates <;> cases sorts <;> rfl
  | unusedRules => cases validates <;> cases sorts <;> rfl
  | code =>
    cases validates with
    | false => cases sorts <;> rfl
    | true => cases sorts <;> exact SymbolTable.annotated_annotated v _

theorem table_applyAll (c : Checked) (passes : List Pass) :
    (applyAll v c passes).table =
      finished v c.table (passes.contains code) (passes.contains normalize) := by
  induction passes using List.reverseRecOn with
  | nil => rfl
  | append_singleton passes p ih =>
    have hlast : ∀ q, (passes ++ [p]).contains q = (passes.contains q || p == q) := fun q => by
      rw [List.contains_append, List.contains_cons, List.contains_nil, Bool.or_false, BEq.comm]
    rw [hlast, hlast, applyAll, List.foldl_append]
    exact table_apply v _ c.table _ _ p ih

/-- **Passes in any order and with any repetitions.** At every point of a sequence the findings so
far come first among those after the next pass. The table is the one given, sorted if any of the
passes sorts and validated if any validates: the two commute, and neither does anything a second
time. -/
theorem applyAll_spec (c : Checked) (passes : List Pass) :
    (∀ before p, (applyAll v c before).findings <+: (applyAll v c (before ++ [p])).findings) ∧
    (applyAll v c passes).table =
      (let sorted := if normalize ∈ passes then c.table.normalize else c.table
       if code ∈ passes then sorted.annotated v else sorted) ∧
    ∀ t : SymbolTable, t.normalize.annotated v = (t.annotated v).normalize ∧
      t.normalize.normalize = t.normalize ∧ (t.annotated v).annotated v = t.annotated v := by
  refine ⟨fun before p => ?_, ?_, fun t => ⟨SymbolTable.annotated_normalize v t,
    t.normalize_normalize, SymbolTable.annotated_annotated v t⟩⟩
  · rw [applyAll, applyAll, List.foldl_append]
    exact findings_prefix_apply v _ p
  · rw [table_applyAll]
    simp only [finished, List.contains_iff_mem]

end Pass

end PegCheck
