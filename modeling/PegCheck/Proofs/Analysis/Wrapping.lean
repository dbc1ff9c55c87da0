import PegCheck.Proofs.Analysis.Parameters
import PegCheck.Proofs.Host.Relocation

/-!
# Analysis in words of 32 bits

All that a run asks of its front end is what it finds in the blocks of the grammar. So a front end
whose positions are kept in words of 32 bits is as good as the one that counts them, for a grammar
in which no position of a block overflows.

* `FrontEnd.AgreesOn`: two front ends find the same in a block.
* `Analyzer.run_congr`: front ends that find the same in all blocks of a grammar give the same run.
* **`Analyzer.run_wrapping`**: a run with positions in words.
-/

namespace PegCheck

/-- Two front ends find the same in a block. -/
structure FrontEnd.AgreesOn (x y : FrontEnd) (b : CodeBlock) : Prop where
  parse : x.parse b.code b.index = y.parse b.code b.index
  comments : x.comments b.code b.index = y.comments b.code b.index

namespace Analyzer

variable {a : Analyzer} {frontEnd : FrontEnd}

/-! ## One block of code -/

theorem settled_congr {b : CodeBlock} (h : frontEnd.AgreesOn a.frontEnd b) :
    settled { a with frontEnd } b = a.settled b := by
  unfold settled
  dsimp only
  rw [h.parse]
  cases a.frontEnd.parse b.code b.index with
  | error e => rfl
  | ok parsed =>
    have hfacts : facts { a with frontEnd } b parsed = a.facts b parsed := by
      simp only [facts, h.comments]
    simp only [hfacts]

theorem map_settled_congr {code : Option CodeBlock}
    (h : ∀ b ∈ code, frontEnd.AgreesOn a.frontEnd b) :
    code.map (settled { a with frontEnd }) = code.map a.settled :=
  Option.map_congr fun b hb => settled_congr (h b hb)

theorem fault?_congr {code : Option CodeBlock} (h : ∀ b ∈ code, frontEnd.AgreesOn a.frontEnd b) :
    fault? { a with frontEnd } code = a.fault? code := by
  cases code with
  | none => rfl
  | some b =>
    unfold fault?
    dsimp only
    rw [(h b rfl).parse]

/-! ## The whole grammar -/

/-- **What a run asks of a front end** is what it finds in the blocks of the grammar. -/
theorem run_congr {g : Grammar} (h : ∀ b ∈ g.blocks, frontEnd.AgreesOn a.frontEnd b) :
    run { a with frontEnd } g = a.run g := by
  obtain ⟨hheader, hrules⟩ := Grammar.forall_mem_blocks.mp h
  have hsettled : (g.ordered.map fun d =>
      (⟨d.name, d.index, d.code.map (settled { a with frontEnd })⟩ : Rule)) =
        g.ordered.map fun d => ⟨d.name, d.index, d.code.map a.settled⟩ :=
    List.map_congr_left fun d hd => by rw [map_settled_congr (hrules d hd)]
  have hfaults : (g.ordered.filterMap fun d => fault? { a with frontEnd } d.code) =
      g.ordered.filterMap fun d => a.fault? d.code :=
    List.filterMap_congr fun d hd => fault?_congr (hrules d hd)
  have hannotated : annotated { a with frontEnd } g = a.annotated g := by
    rw [annotated, annotated, map_settled_congr hheader, hsettled]
  have hreport : report { a with frontEnd } g = a.report g := by
    rw [report, report, fault?_congr hheader, hfaults]
  rw [run_eq, run_eq, hannotated, hreport]

/-- **A run with positions in words** gives the same as one that counts them, if no position that
the front end gives for a block of the grammar overflows. -/
theorem run_wrapping (hfollows : a.frontEnd.Follows) {g : Grammar}
    (hreach : ∀ b ∈ g.blocks, ∀ p ∈ a.frontEnd.positions b.code, b.index.Reaches p.place) :
    run { a with frontEnd := a.frontEnd.wrapping } g = a.run g := by
  refine run_congr fun b hb => ?_
  obtain ⟨hparse, hcomments⟩ := hfollows.wrapping_eq (hreach b hb)
  exact ⟨hparse, hcomments⟩

end Analyzer

end PegCheck
