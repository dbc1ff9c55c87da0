import PegCheck.Proofs.Analysis.Run

/-!
# Analysis under other parameters

The parameters of an analyzer are names to look for in code that has been found valid. They decide
nothing else: under two sets of parameters a run ends in the same way, finds the same, and gives the
same grammar but for the parameters in use. What is in use under either set is the part of one set
of identifiers, those of the block, that lies in it.

* `CodeAnnotations.Agree` and its companions: equal but for the parameters in use, which agree as
  far as the two sets of parameters overlap.
* `Analyzer.agree_settled`: one block under two sets of parameters.
* **`run_params`**: a whole run under two sets of parameters.
-/

namespace PegCheck

variable (P Q : ImplicitParams)

/-! ## Agreement -/

/-- Two annotations are the same but for the parameters in use. Those of the first are parameters of
`P` and those of the second of `Q`, and of the parameters that both have, the same are in use. -/
structure CodeAnnotations.Agree (x y : CodeAnnotations) : Prop where
  parsed : x.parsed = y.parsed
  comments : x.comments = y.comments
  left : ∀ name, name ∈ x.usedArgs → name ∈ P.names
  right : ∀ name, name ∈ y.usedArgs → name ∈ Q.names
  common : ∀ name, name ∈ x.usedArgs ∧ name ∈ Q.names ↔ name ∈ y.usedArgs ∧ name ∈ P.names

/-- The same block, with annotations that agree or without any. -/
structure CodeBlock.Agree (b c : CodeBlock) : Prop where
  code : b.code = c.code
  index : b.index = c.index
  identity : b.identity = c.identity
  annotations : Option.Rel (CodeAnnotations.Agree P Q) b.annotations c.annotations

/-- The same rule, with code that agrees or without any. -/
structure Rule.Agree (r s : Rule) : Prop where
  name : r.name = s.name
  index : r.index = s.index
  code : Option.Rel (CodeBlock.Agree P Q) r.code s.code

/-- The same table, but for the code of its rules. -/
structure SymbolTable.Agree (t u : SymbolTable) : Prop where
  rules : List.Forall₂ (Rule.Agree P Q) t.rules u.rules
  references : t.references = u.references
  combinators : t.combinators = u.combinators

/-- The same grammar, but for the header and the code in its table. -/
structure Grammar.Agree (g h : Grammar) : Prop where
  declarations : g.declarations = h.declarations
  code : Option.Rel (CodeBlock.Agree P Q) g.code h.code
  analysis : Option.Rel (SymbolTable.Agree P Q) g.analysis h.analysis

variable {P Q}

/-- A block without annotations agrees with itself. -/
theorem CodeBlock.Agree.of_none {b : CodeBlock} (h : b.annotations = none) : b.Agree P Q b where
  code := rfl
  index := rfl
  identity := rfl
  annotations := by
    rw [h]
    exact .none

/-- All blocks of code of a grammar, the header first. -/
def Grammar.blocks (g : Grammar) : List CodeBlock :=
  g.code.toList ++ g.declarations.filterMap (·.code)

/-- The blocks of a grammar are those of the header and of the declarations, in whatever order. -/
theorem Grammar.forall_mem_blocks {g : Grammar} {good : CodeBlock → Prop} :
    (∀ b ∈ g.blocks, good b) ↔
      (∀ b ∈ g.code, good b) ∧ ∀ d ∈ g.ordered, ∀ b ∈ d.code, good b := by
  rw [blocks, List.forall_mem_append]
  refine and_congr ?_ ?_
  · simp only [Option.mem_toList, Option.mem_def]
  · simp only [List.mem_filterMap, mem_ordered]
    exact ⟨fun h d hd b hb => h b ⟨d, hd, hb⟩, fun h b ⟨d, hd, hb⟩ => h d hd b hb⟩

/-! ## A run -/

namespace Analyzer

variable (a : Analyzer) (P Q)

/-- The facts about a block are the same but for the parameters, and these are taken from the
identifiers of the block. -/
theorem agree_facts (b : CodeBlock) (parsed : ParsedCode) :
    (facts { a with params := P } b parsed).Agree P Q (facts { a with params := Q } b parsed) where
  parsed := rfl
  comments := rfl
  left name h := (OrderedSet.mem_filter.mp h).1
  right name h := (OrderedSet.mem_filter.mp h).1
  common name := by
    simp only [facts, OrderedSet.mem_filter]
    constructor
    · rintro ⟨⟨hP, hident⟩, hQ⟩
      exact ⟨⟨hQ, hident⟩, hP⟩
    · rintro ⟨⟨hQ, hident⟩, hP⟩
      exact ⟨⟨hP, hident⟩, hQ⟩

/-- **One block.** What becomes of it does not depend on the parameters but for those in use. -/
theorem agree_settled {b : CodeBlock} (h : b.annotations = none) :
    (settled { a with params := P } b).Agree P Q (settled { a with params := Q } b) := by
  unfold settled
  by_cases hb : b.identity = true
  · rw [if_pos hb, if_pos hb]
    exact .of_none h
  · rw [if_neg hb, if_neg hb]
    cases a.frontEnd.parse b.code b.index with
    | error e => exact .of_none h
    | ok parsed => exact ⟨rfl, rfl, rfl, .some (a.agree_facts P Q b parsed)⟩

/-- The same for a place where code may be absent. -/
theorem agree_map_settled {code : Option CodeBlock} (h : ∀ b ∈ code, b.annotations = none) :
    Option.Rel (CodeBlock.Agree P Q) (code.map (settled { a with params := P }))
      (code.map (settled { a with params := Q })) := by
  cases code with
  | none => exact .none
  | some b => exact .some (a.agree_settled P Q (h b rfl))

/-- Whether a block is rejected, and how, does not depend on the parameters. -/
theorem fault?_params (code : Option CodeBlock) :
    fault? { a with params := P } code = fault? { a with params := Q } code := by
  cases code with
  | none => rfl
  | some b => rfl

theorem report_params (g : Grammar) :
    report { a with params := P } g = report { a with params := Q } g := by
  unfold report
  rw [a.fault?_params P Q]
  simp only [a.fault?_params P Q]

/-- The grammars of two runs agree. -/
theorem agree_annotated {g : Grammar} (h : ∀ b ∈ g.blocks, b.annotations = none) :
    (annotated { a with params := P } g).Agree P Q (annotated { a with params := Q } g) := by
  obtain ⟨hheader, hrules⟩ := Grammar.forall_mem_blocks.mp h
  refine ⟨rfl, a.agree_map_settled P Q hheader, .some ⟨?_, rfl, rfl⟩⟩
  simp only [List.forall₂_map_left_iff, List.forall₂_map_right_iff]
  exact List.forall₂_same.mpr fun d hd => ⟨rfl, rfl, a.agree_map_settled P Q (hrules d hd)⟩

/-- **Parameters decide nothing but which of them are in use.** A grammar without annotations is
run, under two sets of parameters, to the same error, or to the same findings and to grammars that
agree: they are equal but for the parameters in use, which are those of either set among the
identifiers of a block. -/
theorem run_params (g : Grammar) (h : ∀ b ∈ g.blocks, b.annotations = none) :
    (∃ e, run { a with params := P } g = .error e ∧ run { a with params := Q } g = .error e) ∨
    ∃ g' h' findings, run { a with params := P } g = .ok (g', findings) ∧
      run { a with params := Q } g = .ok (h', findings) ∧ g'.Agree P Q h' := by
  rw [run_eq, run_eq, a.report_params P Q g]
  by_cases hfits : g.fits a.fuel = true
  · rw [if_pos hfits, if_pos hfits]
    exact .inr ⟨_, _, _, rfl, rfl, a.agree_annotated P Q h⟩
  · rw [if_neg hfits, if_neg hfits]
    exact .inl ⟨_, rfl, rfl⟩

/-- A header with three identifiers, and code that is rejected. -/
def threeNamesGrammar : Grammar where
  declarations := sampleGrammar.declarations
  code := some { code := "left both right", index := ⟨1, 1⟩ }

theorem run_params_sample :
    (∀ b ∈ threeNamesGrammar.blocks, b.annotations = none) ∧
    ∃ g' h' findings,
      run { sampleAnalyzer with params := .ofList ["left", "both"] } threeNamesGrammar =
        .ok (g', findings) ∧
      run { sampleAnalyzer with params := .ofList ["both", "right"] } threeNamesGrammar =
        .ok (h', findings) ∧
      g'.Agree (.ofList ["left", "both"]) (.ofList ["both", "right"]) h' ∧
      (g'.code.bind (·.annotations)).map (·.usedArgs.toList) = some ["both", "left"] ∧
      (h'.code.bind (·.annotations)).map (·.usedArgs.toList) = some ["both", "right"] := by
  have hnone : ∀ b ∈ threeNamesGrammar.blocks, b.annotations = none := by decide
  have hfits : threeNamesGrammar.fits sampleAnalyzer.fuel = true := by decide
  have hok (params : ImplicitParams) : run { sampleAnalyzer with params } threeNamesGrammar =
      .ok (annotated { sampleAnalyzer with params } threeNamesGrammar,
        report { sampleAnalyzer with params } threeNamesGrammar) := by
    rw [run_eq, if_pos hfits]
  refine ⟨hnone, ?_⟩
  obtain ⟨e, he, -⟩ | ⟨g', h', findings, hg, hh, hagree⟩ := sampleAnalyzer.run_params
    (.ofList ["left", "both"]) (.ofList ["both", "right"]) threeNamesGrammar hnone
  · rw [hok] at he
    nomatch he
  · refine ⟨g', h', findings, hg, hh, hagree, ?_, ?_⟩
    · rw [hok] at hg
      obtain ⟨rfl, -⟩ := Prod.mk.inj (Except.ok.inj hg)
      cbv
    · rw [hok] at hh
      obtain ⟨rfl, -⟩ := Prod.mk.inj (Except.ok.inj hh)
      cbv

end Analyzer

end PegCheck
