import PegCheck.Proofs.Analysis.Run

/-!
# Analyzing an analyzed grammar

A run reads the declarations, the blocks of code and nothing else; it leaves the declarations as
they are, and of a block it changes the annotations only, which it does not read. So a second run
has nothing left to do.

* `fault?_settled`, `settled_settled`: the two facts about one block.
* `run_annotated`: the annotated grammar is run to the same result as the grammar itself.
* **`run_again`**: a second run gives the result of the first, whatever that found.
-/

namespace PegCheck

namespace Analyzer

/-! ## One block of code -/

/-- A second look at a block finds what the first one found. -/
theorem fault?_settled (a : Analyzer) (code : Option CodeBlock) :
    a.fault? (code.map a.settled) = a.fault? code := by
  cases code with
  | none => rfl
  | some b =>
    rw [Option.map_some]
    obtain ⟨-, -, hs, -⟩ | ⟨e, -, -, -, hs, -⟩ | ⟨parsed, -, -, -, hs, -⟩ := a.block_cases b
    · rw [hs]
    · rw [hs]
    · rw [hs]
      rfl

/-- A second look at a block changes nothing more. -/
theorem settled_settled (a : Analyzer) (b : CodeBlock) : a.settled (a.settled b) = a.settled b := by
  obtain ⟨-, -, hs, -⟩ | ⟨e, -, -, -, hs, -⟩ | ⟨parsed, hb, hp, -, hs, -⟩ := a.block_cases b
  · rw [hs, hs]
  · rw [hs, hs]
  · -- The front end is asked about the same text at the same place, so it accepts again.
    rw [hs]
    simp only [settled, hb, hp, Bool.false_eq_true, if_false]
    rfl

/-! ## The whole grammar -/

theorem annotated_annotated (a : Analyzer) (g : Grammar) :
    a.annotated (a.annotated g) = a.annotated g := by
  have hcode : (g.code.map a.settled).map a.settled = g.code.map a.settled := by
    rw [Option.map_map]
    exact congrArg (fun f => g.code.map f) (funext a.settled_settled)
  exact congrArg (fun code => { a.annotated g with code }) hcode

theorem report_annotated (a : Analyzer) (g : Grammar) : a.report (a.annotated g) = a.report g := by
  have hcode := a.fault?_settled g.code
  unfold report
  exact congrArg (fun f : Option Finding =>
    f.toList ++ g.undeclared.map g.undeclaredFinding ++ g.unused.map Declaration.unusedFinding
      ++ g.ordered.filterMap fun d => a.fault? d.code) hcode

/-- The annotated grammar is run to the same result; it has the same declarations, so the fuel lasts
as far. -/
theorem run_annotated (a : Analyzer) (g : Grammar) : a.run (a.annotated g) = a.run g := by
  rw [run_eq, run_eq, annotated_annotated, report_annotated]
  rfl

theorem analyze_eq_ok_iff {a : Analyzer} {g g' : Grammar} :
    a.analyze g = .ok g' ↔ a.run g = .ok (g', []) := by
  unfold analyze
  cases a.run g with
  | error e => exact iff_of_false nofun nofun
  | ok r =>
    obtain ⟨h, fs⟩ := r
    cases fs with
    | nil =>
      constructor
      · rintro ⟨⟩
        rfl
      · rintro ⟨⟩
        rfl
    | cons f fs => exact iff_of_false nofun nofun

/-- **A second run gives the result of the first**: the same grammar, with every order in its table,
and the same findings, whether or not there are any. A grammar that was analyzed without findings is
analyzed to itself. -/
theorem run_again (a : Analyzer) (g : Grammar) :
    (∀ g' findings, a.run g = .ok (g', findings) → a.run g' = .ok (g', findings)) ∧
    ∀ g', a.analyze g = .ok g' → a.analyze g' = .ok g' := by
  have hrun : ∀ g' findings, a.run g = .ok (g', findings) → a.run g' = .ok (g', findings) := by
    intro g' findings h
    have hlimit : a.run g ≠ .error .recursionLimitExceeded := by
      rw [h]
      nofun
    obtain ⟨rfl, -⟩ := Prod.mk.inj (Except.ok.inj (h.symm.trans (run_eq_ok hlimit)))
    exact (a.run_annotated g).trans h
  exact ⟨hrun, fun g' h => analyze_eq_ok_iff.mpr (hrun g' [] (analyze_eq_ok_iff.mp h))⟩

/-- A grammar without a fault: one declaration, and a header with a comment. -/
def cleanGrammar : Grammar where
  declarations := [{ name := "start", index := ⟨2, 1⟩, expr := .any }]
  code := some { code := "idx # x", index := ⟨1, 3⟩ }

theorem run_again_sample :
    (∃ g' findings, sampleAnalyzer.run sampleGrammar = .ok (g', findings) ∧ findings ≠ [] ∧
      sampleAnalyzer.run g' = .ok (g', findings)) ∧
    ∃ g', sampleAnalyzer.analyze cleanGrammar = .ok g' ∧ g'.code ≠ cleanGrammar.code ∧
      sampleAnalyzer.analyze g' = .ok g' := by
  have hrun := run_eq_ok run_sampleGrammar_ne
  have hclean : sampleAnalyzer.analyze cleanGrammar = .ok (sampleAnalyzer.annotated cleanGrammar) := by
    rw [analyze_eq_ok_iff, run_eq, if_pos (by decide)]
    exact congrArg (fun fs => Except.ok (sampleAnalyzer.annotated cleanGrammar, fs)) (by cbv)
  refine ⟨⟨_, _, hrun, ?_, (run_again sampleAnalyzer sampleGrammar).1 _ _ hrun⟩,
    ⟨_, hclean, ?_, (run_again sampleAnalyzer cleanGrammar).2 _ hclean⟩⟩
  · cbv
    exact List.cons_ne_nil _ _
  · cbv
    simp

end Analyzer

end PegCheck
