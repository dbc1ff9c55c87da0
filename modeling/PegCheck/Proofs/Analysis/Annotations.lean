import PegCheck.Proofs.Analysis.Rerun

/-!
# Annotations from an earlier analysis

A grammar may come with annotations on its blocks of code and with a symbol table, left there by an
earlier analysis of the same text or of another one. A run looks at neither. It does hand the
annotations on: a block that is rejected keeps those that it came with, so they may show in the
result of a run. They do not show in the result of an analysis, which accepts no rejected block.

* `Grammar.unannotated`: the grammar without its table and without the annotations that a run may
  replace. Identity blocks are passed over by a run and keep theirs.
* `fault?_unannotated`, `settled_unannotated`: what dropping annotations means for one block.
* `run_unannotated`, `analyze_unannotated`: what it means for the whole grammar.
* **`analyze_of_unannotated_eq`**: grammars that differ in annotations and tables alone are analyzed
  alike.
-/

namespace PegCheck

/-! ## Dropping annotations -/

/-- The block without its annotations, unless it is an identity block. -/
def CodeBlock.unannotated (b : CodeBlock) : CodeBlock :=
  if b.identity then b else { b with annotations := none }

/-- The declaration without the annotations of its code. -/
def Declaration.unannotated (d : Declaration) : Declaration :=
  { d with code := d.code.map CodeBlock.unannotated }

namespace Grammar

/-- The grammar without annotations and without a table. -/
def unannotated (g : Grammar) : Grammar where
  declarations := g.declarations.map Declaration.unannotated
  code := g.code.map CodeBlock.unannotated

variable (g : Grammar)

/-- Annotations are no part of an expression. -/
theorem nodes_unannotated : g.unannotated.nodes = g.nodes :=
  nodes_congr (by simp [unannotated, Declaration.unannotated])

theorem references_unannotated : g.unannotated.references = g.references := by
  rw [references, references, nodes_unannotated]

theorem combinators_unannotated : g.unannotated.combinators = g.combinators := by
  rw [combinators, combinators, nodes_unannotated]

theorem names_unannotated :
    g.unannotated.declarations.map (·.name) = g.declarations.map (·.name) := by
  simp [unannotated, Declaration.unannotated]

/-- Sorting looks at positions only. -/
theorem ordered_unannotated : g.unannotated.ordered = g.ordered.map Declaration.unannotated := by
  have hkey (d e : Declaration) :
      decide (d.index ≤ e.index) = decide (d.unannotated.index ≤ e.unannotated.index) := rfl
  exact (List.map_mergeSort fun d _ e _ => hkey d e).symm

theorem fits_unannotated (fuel : Option Nat) : g.unannotated.fits fuel = g.fits fuel := by
  simp [fits, unannotated, Declaration.unannotated, Function.comp_def]

theorem undeclared_unannotated : g.unannotated.undeclared = g.undeclared := by
  rw [undeclared, undeclared, references_unannotated, names_unannotated]

theorem unused_unannotated : g.unannotated.unused = g.unused.map Declaration.unannotated := by
  rw [unused, unused, ordered_unannotated, references_unannotated, ← List.map_drop, List.filter_map]
  rfl

end Grammar

namespace Analyzer

variable (a : Analyzer)

/-! ## One block of code -/

/-- Whether a block is rejected, and how, has nothing to do with its annotations. -/
theorem fault?_unannotated (code : Option CodeBlock) :
    a.fault? (code.map CodeBlock.unannotated) = a.fault? code := by
  cases code with
  | none => rfl
  | some b =>
    by_cases hb : b.identity = true
    · rw [Option.map_some, CodeBlock.unannotated, if_pos hb]
    · rw [Option.map_some, CodeBlock.unannotated, if_neg hb]
      rfl

/-- A block that is not rejected is settled without regard to its annotations: those of an identity
block have not been dropped, and those of any other block are replaced. -/
theorem settled_unannotated {b : CodeBlock} (h : a.fault? (some b) = none) :
    a.settled b.unannotated = a.settled b := by
  by_cases hb : b.identity = true
  · rw [CodeBlock.unannotated, if_pos hb]
  · rw [CodeBlock.unannotated, if_neg hb]
    cases hparse : a.frontEnd.parse b.code b.index with
    | error e => simp [fault?, hb, hparse] at h
    | ok parsed =>
      simp only [settled, hb, hparse]
      rfl

/-- The same for a place where code may be absent. -/
theorem map_settled_unannotated {code : Option CodeBlock} (h : a.fault? code = none) :
    (code.map CodeBlock.unannotated).map a.settled = code.map a.settled := by
  cases code with
  | none => rfl
  | some b => exact congrArg some (a.settled_unannotated h)

/-! ## The whole grammar -/

variable (g : Grammar)

theorem report_unannotated : a.report g.unannotated = a.report g := by
  have hheader : a.fault? g.unannotated.code = a.fault? g.code := a.fault?_unannotated g.code
  have hundeclared : g.unannotated.undeclaredFinding = g.undeclaredFinding := by
    funext name
    rw [Grammar.undeclaredFinding, Grammar.undeclaredFinding, g.references_unannotated]
  have hunused : g.unannotated.unused.map Declaration.unusedFinding =
      g.unused.map Declaration.unusedFinding := by
    rw [g.unused_unannotated, List.map_map]
    rfl
  have hfaults : (g.unannotated.ordered.filterMap fun d => a.fault? d.code) =
      g.ordered.filterMap fun d => a.fault? d.code := by
    rw [g.ordered_unannotated, List.filterMap_map]
    exact List.filterMap_congr fun d _ => a.fault?_unannotated d.code
  rw [report, report, hheader, g.undeclared_unannotated, hundeclared, hunused, hfaults]

/-- A run finds the same without the annotations. -/
theorem run_unannotated :
    (a.run g.unannotated).map Prod.snd = (a.run g).map Prod.snd := by
  rw [run_eq, run_eq, g.fits_unannotated, report_unannotated]
  cases g.fits a.fuel with
  | false => rfl
  | true => rfl

theorem fault?_eq_none_of_report {a : Analyzer} {g : Grammar} (h : a.report g = []) :
    a.fault? g.code = none ∧ ∀ d ∈ g.ordered, a.fault? d.code = none := by
  unfold report at h
  obtain ⟨hnames, hfaults⟩ := List.append_eq_nil_iff.mp h
  obtain ⟨hheader, -⟩ := List.append_eq_nil_iff.mp (List.append_eq_nil_iff.mp hnames).1
  exact ⟨Option.toList_eq_nil_iff.mp hheader, List.filterMap_eq_nil_iff.mp hfaults⟩

/-- Where nothing is found, nothing of the annotations is left in the header and in the table. -/
theorem annotated_unannotated (h : a.report g = []) :
    (a.annotated g.unannotated).code = (a.annotated g).code ∧
      (a.annotated g.unannotated).analysis = (a.annotated g).analysis := by
  obtain ⟨hheader, hfaults⟩ := fault?_eq_none_of_report h
  refine ⟨a.map_settled_unannotated hheader, ?_⟩
  have hrules : (g.unannotated.ordered.map fun d =>
      (⟨d.name, d.index, d.code.map a.settled⟩ : Rule)) =
        g.ordered.map fun d => ⟨d.name, d.index, d.code.map a.settled⟩ := by
    rw [g.ordered_unannotated, List.map_map]
    refine List.map_congr_left fun d hd => ?_
    exact congrArg (Rule.mk d.name d.index) (a.map_settled_unannotated (hfaults d hd))
  have hgroups : g.unannotated.referenceGroups = g.referenceGroups := by
    rw [Grammar.referenceGroups, Grammar.referenceGroups, g.references_unannotated]
  simp only [annotated, hrules, hgroups, g.combinators_unannotated]

/-- An analysis is a run that found nothing. -/
theorem analyze_eq :
    a.analyze g =
      if g.fits a.fuel then
        if a.report g = [] then .ok (a.annotated g) else .error (.analysisFailed (a.report g))
      else .error .recursionLimitExceeded := by
  unfold analyze
  rw [run_eq]
  cases g.fits a.fuel with
  | false => rfl
  | true =>
    show (if (a.report g).isEmpty = true then pure (a.annotated g) else throw _) = _
    simp only [List.isEmpty_iff]
    rfl

/-- An analysis has the same outcome without the annotations, and if it succeeds, the same header
and the same table. -/
theorem analyze_unannotated :
    (a.analyze g.unannotated).map (fun g' => (g'.code, g'.analysis)) =
      (a.analyze g).map fun g' => (g'.code, g'.analysis) := by
  rw [analyze_eq, analyze_eq, g.fits_unannotated, report_unannotated]
  cases g.fits a.fuel with
  | false => rfl
  | true =>
    by_cases h : a.report g = []
    · obtain ⟨hcode, hanalysis⟩ := a.annotated_unannotated g h
      simp only [if_true, if_pos h, Except.map, hcode, hanalysis]
    · simp only [if_true, if_neg h, Except.map]

/-- **Annotations and tables from before play no part.** If two grammars are the same but for their
tables and for the annotations of blocks that are not identity blocks, a run fails for both with the
same error or finds the same in both. An analysis, too, fails for both with the same error, or it
succeeds for both and gives them the same header and the same table. -/
theorem analyze_of_unannotated_eq {g h : Grammar} (heq : g.unannotated = h.unannotated) :
    (a.run g).map Prod.snd = (a.run h).map Prod.snd ∧
      (a.analyze g).map (fun g' => (g'.code, g'.analysis)) =
        (a.analyze h).map fun h' => (h'.code, h'.analysis) := by
  constructor
  · rw [← a.run_unannotated g, heq, a.run_unannotated h]
  · rw [← a.analyze_unannotated g, heq, a.analyze_unannotated h]

/-- `cleanGrammar` with annotations of another text on its header, and with a table. -/
def staleGrammar : Grammar :=
  { cleanGrammar with
    code := some
      { code := "idx # x", index := ⟨1, 3⟩
        annotations := some { parsed := [], comments := [], usedArgs := .ofList ["stale"] } }
    analysis := some {} }

theorem analyze_of_unannotated_eq_sample :
    cleanGrammar.unannotated = staleGrammar.unannotated ∧
    (sampleAnalyzer.run cleanGrammar).map Prod.snd =
      (sampleAnalyzer.run staleGrammar).map Prod.snd ∧
    ∃ g' h', sampleAnalyzer.analyze cleanGrammar = .ok g' ∧
      sampleAnalyzer.analyze staleGrammar = .ok h' ∧
      g'.code = h'.code ∧ g'.analysis = h'.analysis ∧ h'.code ≠ staleGrammar.code := by
  have heq : cleanGrammar.unannotated = staleGrammar.unannotated := rfl
  obtain ⟨hrun, hanalyze⟩ := analyze_of_unannotated_eq sampleAnalyzer heq
  have hclean : sampleAnalyzer.analyze cleanGrammar = .ok (sampleAnalyzer.annotated cleanGrammar) := by
    rw [analyze_eq, if_pos (by decide), if_pos (by cbv)]
  have hnew : (sampleAnalyzer.annotated cleanGrammar).code ≠ staleGrammar.code := by
    cbv
    simp
  refine ⟨heq, hrun, ?_⟩
  rw [hclean] at hanalyze ⊢
  cases hstale : sampleAnalyzer.analyze staleGrammar with
  | error e =>
    simp [hstale, Except.map] at hanalyze
  | ok h' =>
    rw [hstale] at hanalyze
    obtain ⟨hcode, hanalysis⟩ := Prod.mk.inj (Except.ok.inj hanalyze)
    exact ⟨_, h', rfl, rfl, hcode, hanalysis, hcode ▸ hnew⟩

end Analyzer

end PegCheck
