import PegCheck.Proofs.Analysis.Run
import PegCheck.Proofs.Grammar.Movement

/-!
# Analyzing a grammar further down

A grammar that stands further down in its source is analyzed to the same result further down. All
that a run does with positions is to sort by them, to hand them to the front end as the beginnings
of code, and to put them into findings, and none of this depends on how far down they are.

* `undeclared_move`, `unused_move`: what the checks of names look for.
* `facts_move`, `settled_move`, `fault?_move`: what becomes of one block, with a front end that
  follows where the block goes.
* `run_move`: a run commutes with every map of positions that is a shift.
* `Position.isShift_down`: so it does with moving all lines down.
* **`run_down`**: this holds with the default front end and with every front end for words.
-/

namespace PegCheck

variable {f : Position → Position}

/-! ## The checks of names -/

namespace Grammar

variable (h : Position.IsShift f) (g : Grammar)

include h

theorem undeclared_move : (g.move f).undeclared = g.undeclared := by
  rw [undeclared, undeclared, references_move, References.ordered_move h, names_move]

theorem undeclaredFinding_move (name : String) :
    (g.move f).undeclaredFinding name = (g.undeclaredFinding name).move f := by
  rw [undeclaredFinding, references_move, References.occurrences_move h]
  rfl

theorem unused_move : (g.move f).unused = g.unused.map (Declaration.move f) := by
  have hnames : (g.move f).references.map (·.name) = g.references.map (·.name) := by
    rw [references_move, List.map_map]
    rfl
  rw [unused, unused, g.ordered_move h, hnames, ← List.map_drop, List.filter_map]
  rfl

end Grammar

theorem Declaration.unusedFinding_move (d : Declaration) :
    (d.move f).unusedFinding = d.unusedFinding.move f := rfl

theorem HostError.toFinding_move (e : HostError) : (e.move f).toFinding = e.toFinding.move f := by
  cases e <;> rfl

namespace Analyzer

variable {a : Analyzer} (hfollows : a.frontEnd.Follows) (h : Position.IsShift f)

include hfollows h

/-! ## One block of code -/

/-- What the front end tells of a block goes where the block goes. -/
theorem facts_move (b : CodeBlock) (parsed : ParsedCode) :
    a.facts (b.move f) (parsed.move f) = (a.facts b parsed).move f := by
  have hcomments : a.frontEnd.comments b.code (f b.index) =
      (a.frontEnd.comments b.code b.index).map (Comment.move f) :=
    hfollows.comments (h.carries b.index) b.code
  simp only [facts, CodeBlock.move, ParsedCode.move, CodeAnnotations.move, hcomments, List.any_map]
  rfl

theorem settled_move (b : CodeBlock) : a.settled (b.move f) = (a.settled b).move f := by
  have hparse := hfollows.parse (h.carries b.index) b.code
  unfold settled
  by_cases hb : b.identity = true
  · have hb' : (b.move f).identity = true := hb
    rw [if_pos hb, if_pos hb']
  · have hb' : ¬ (b.move f).identity = true := hb
    rw [if_neg hb, if_neg hb']
    cases hp : a.frontEnd.parse b.code b.index with
    | error e =>
      -- A rejected block keeps the annotations that it came with, moved like the rest of it.
      rw [hp] at hparse
      simp only [CodeBlock.move, hparse]
    | ok parsed =>
      have hfacts := facts_move hfollows h b parsed
      rw [hp] at hparse
      simp only [CodeBlock.move, hparse] at hfacts ⊢
      rw [hfacts]
      rfl

theorem fault?_move (code : Option CodeBlock) :
    a.fault? (code.map (CodeBlock.move f)) = (a.fault? code).map (Finding.move f) := by
  cases code with
  | none => rfl
  | some b =>
    have hparse := hfollows.parse (h.carries b.index) b.code
    simp only [Option.map_some, fault?, CodeBlock.move]
    by_cases hb : b.identity = true
    · rw [if_pos hb, if_pos hb]
      rfl
    · rw [if_neg hb, if_neg hb, hparse]
      cases a.frontEnd.parse b.code b.index with
      | error e => exact congrArg some e.toFinding_move
      | ok parsed => rfl

theorem map_settled_move (code : Option CodeBlock) :
    (code.map (CodeBlock.move f)).map a.settled = (code.map a.settled).map (CodeBlock.move f) := by
  cases code with
  | none => rfl
  | some b => exact congrArg some (settled_move hfollows h b)

/-! ## The whole grammar -/

variable (g : Grammar)

theorem report_move : a.report (g.move f) = (a.report g).map (Finding.move f) := by
  have hheader : a.fault? (g.move f).code = (a.fault? g.code).map (Finding.move f) :=
    fault?_move hfollows h g.code
  have hundeclared : (g.move f).undeclared.map (g.move f).undeclaredFinding =
      (g.undeclared.map g.undeclaredFinding).map (Finding.move f) := by
    rw [g.undeclared_move h, List.map_map]
    exact List.map_congr_left fun name _ => g.undeclaredFinding_move h name
  have hunused : (g.move f).unused.map Declaration.unusedFinding =
      (g.unused.map Declaration.unusedFinding).map (Finding.move f) := by
    rw [g.unused_move h, List.map_map, List.map_map]
    exact List.map_congr_left fun d _ => d.unusedFinding_move
  have hfaults : ((g.move f).ordered.filterMap fun d => a.fault? d.code) =
      (g.ordered.filterMap fun d => a.fault? d.code).map (Finding.move f) := by
    rw [g.ordered_move h, List.filterMap_map, List.map_filterMap]
    exact List.filterMap_congr fun d _ => fault?_move hfollows h d.code
  rw [report, report, hheader, hundeclared, hunused, hfaults]
  simp only [List.map_append, Option.toList_map]

theorem annotated_move : a.annotated (g.move f) = (a.annotated g).move f := by
  have hheader : (g.move f).code.map a.settled = (g.code.map a.settled).map (CodeBlock.move f) :=
    map_settled_move hfollows h g.code
  have hrules : ((g.move f).ordered.map fun d =>
      (⟨d.name, d.index, d.code.map a.settled⟩ : Rule)) =
        (g.ordered.map fun d => ⟨d.name, d.index, d.code.map a.settled⟩).map (Rule.move f) := by
    rw [g.ordered_move h, List.map_map, List.map_map]
    refine List.map_congr_left fun d _ => ?_
    exact congrArg (Rule.mk d.name (f d.index)) (map_settled_move hfollows h d.code)
  rw [annotated, hheader, hrules, g.referenceGroups_move h, g.combinators_move]
  rfl

/-- **A run commutes with a shift.** What stands on the grammar as its table from before plays no
part. -/
theorem run_move (old : Option SymbolTable) :
    a.run { g.move f with analysis := old } =
      (a.run g).map fun (g', findings) => (g'.move f, findings.map (Finding.move f)) := by
  have hold : a.run { g.move f with analysis := old } = a.run (g.move f) := by
    rw [run_eq, run_eq]
    rfl
  rw [hold, run_eq, run_eq, g.fits_move]
  by_cases hfits : g.fits a.fuel = true
  · rw [if_pos hfits, if_pos hfits, annotated_move hfollows h, report_move hfollows h]
    rfl
  · rw [if_neg hfits, if_neg hfits]
    rfl

end Analyzer

/-! ## Moving down -/

/-- The position in the same column of a later line. -/
def Position.down (k : Nat) (p : Position) : Position where
  line := p.line + k
  column := p.column

/-- Moving all lines down is a shift: a snippet that begins further down lies further down on its
first line and on all others. -/
theorem Position.isShift_down (k : Nat) : IsShift (down k) where
  le_iff p q := by
    simp only [le_iff, down]
    omega
  carries start place := by
    unfold offsetBy
    by_cases hline : place.line ≤ 1
    · rw [if_pos hline, if_pos hline]
      rfl
    · rw [if_neg hline, if_neg hline]
      simp only [down, eq_iff, and_true]
      omega

/-- The grammar `k` lines further down: its declarations with their references and their code, its
header and its table. -/
def Grammar.down (k : Nat) (g : Grammar) : Grammar := g.move (Position.down k)

/-- The finding `k` lines further down. -/
def Finding.down (k : Nat) (x : Finding) : Finding := x.move (Position.down k)

namespace Analyzer

/-- **A grammar further down** is analyzed to the same result further down, with the default front
end and with every front end for words: to the same error, or to the same findings in the same order
and to the same grammar, with all positions moved by as many lines. -/
theorem run_down (k : Nat) (g : Grammar) (old : Option SymbolTable) (params : ImplicitParams)
    (fuel : Option Nat) :
    run ⟨Host.frontEnd, params, fuel⟩ { g.down k with analysis := old } =
      (run ⟨Host.frontEnd, params, fuel⟩ g).map (fun (g', findings) =>
        (g'.down k, findings.map (Finding.down k))) ∧
    ∀ rejections, run ⟨Words.frontEnd rejections, params, fuel⟩ { g.down k with analysis := old } =
      (run ⟨Words.frontEnd rejections, params, fuel⟩ g).map (fun (g', findings) =>
        (g'.down k, findings.map (Finding.down k))) := by
  have hshift := Position.isShift_down k
  constructor
  · exact run_move Host.frontEnd_follows hshift g old
  · intro rejections
    exact run_move (Words.frontEnd_follows rejections) hshift g old

end Analyzer

end PegCheck
