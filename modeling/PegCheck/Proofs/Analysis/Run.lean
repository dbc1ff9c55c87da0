import Mathlib
import PegCheck.Proofs.SymbolTable.Canonical
import PegCheck.Host.Words

/-!
# What a run gives

A run of an analyzer validates blocks of code in two places and makes two checks on a table. Here it
is put in terms of the grammar and of single blocks; the table no longer appears.

* `Analyzer.settled` and `Analyzer.fault?` say what becomes of one block: the block that the result
  carries in its place, and the finding that it gives rise to, if any. `block_cases` is the one
  place where the validator is opened.
* `Grammar.undeclared` and `Grammar.unused` say what the two checks of names look for in the tree.
* `run_eq`: the result of a run, or the report that some declaration nests too deep.
* **`run_findings`**: the findings, in their order.
* **`run_grammar`**: the grammar with what could be annotated.
-/

namespace PegCheck

/-! ## One block of code -/

namespace ImplicitParams

/-- The parameters in use are those whose name is that of an identifier among the tokens. -/
theorem usedIn_eq (p : ImplicitParams) (tokens : List HostToken) :
    p.usedIn tokens =
      p.names.filter fun name => tokens.any fun t => t.kind == .ident && t.text == name := by
  refine OrderedSet.ext fun name => ?_
  rw [usedIn, OrderedSet.mem_ofList, OrderedSet.mem_filter, List.any_eq_true]
  simp only [List.mem_map, List.mem_filter, Bool.and_eq_true, beq_iff_eq, contains,
    OrderedSet.contains_iff]
  constructor
  · rintro ⟨t, ⟨ht, hkind, hmem⟩, rfl⟩
    exact ⟨hmem, t, ht, hkind, rfl⟩
  · rintro ⟨hmem, t, ht, hkind, rfl⟩
    exact ⟨t, ⟨ht, hkind, hmem⟩, rfl⟩

end ImplicitParams

namespace Analyzer

/-- What the front end tells of a block that it accepts: the forms, the comments, and the parameters
that are among the identifiers. -/
def facts (a : Analyzer) (b : CodeBlock) (parsed : ParsedCode) : CodeAnnotations where
  parsed := parsed.forms
  comments := a.frontEnd.comments b.code b.index
  usedArgs := a.params.names.filter fun name =>
    parsed.tokens.any fun t => t.kind == .ident && t.text == name

/-- What a block is after a run: one that is not an identity block and is accepted has new
annotations, and every other block is as it was. -/
def settled (a : Analyzer) (b : CodeBlock) : CodeBlock :=
  if b.identity then b
  else
    match a.frontEnd.parse b.code b.index with
    | .error _ => b
    | .ok parsed => { b with annotations := some (a.facts b parsed) }

/-- The finding about a block: there is one if the block is present, not an identity block, and
rejected. -/
def fault? (a : Analyzer) : Option CodeBlock → Option Finding
  | none => none
  | some b =>
    if b.identity then none
    else
      match a.frontEnd.parse b.code b.index with
      | .error e => some e.toFinding
      | .ok _ => none

/-- **The three fates of a block.** An identity block is passed over; a rejected one is reported
and stays as it is; an accepted one has new annotations and nothing to report. -/
theorem block_cases (a : Analyzer) (b : CodeBlock) :
    (b.identity = true ∧ a.validator.validate (some b) = .unchanged ∧
      a.settled b = b ∧ a.fault? (some b) = none) ∨
    (∃ e, b.identity = false ∧ a.frontEnd.parse b.code b.index = .error e ∧
      a.validator.validate (some b) = .failed e.toFinding ∧
      a.settled b = b ∧ a.fault? (some b) = some e.toFinding) ∨
    (∃ parsed, b.identity = false ∧ a.frontEnd.parse b.code b.index = .ok parsed ∧
      a.validator.validate (some b) = .annotated (a.settled b) ∧
      a.settled b = { b with annotations := some (a.facts b parsed) } ∧
      a.fault? (some b) = none) := by
  simp only [Validator.validate, validator, settled, fault?]
  cases hb : b.identity with
  | true => exact .inl ⟨rfl, rfl, rfl, rfl⟩
  | false =>
    simp only [Bool.false_eq_true, if_false]
    cases hp : a.frontEnd.parse b.code b.index with
    | error e => exact .inr (.inl ⟨e, trivial, rfl, rfl, rfl, rfl⟩)
    | ok parsed =>
      refine .inr (.inr ⟨parsed, trivial, rfl, ?_, rfl, rfl⟩)
      simp only [Validator.facts, facts, ImplicitParams.usedIn_eq]

theorem finding?_eq (a : Analyzer) (code : Option CodeBlock) :
    a.validator.finding? code = a.fault? code := by
  cases code with
  | none => rfl
  | some b =>
    unfold Validator.finding?
    obtain ⟨-, hv, -, hf⟩ | ⟨e, -, -, hv, -, hf⟩ | ⟨parsed, -, -, hv, -, hf⟩ := a.block_cases b
    · rw [hv, hf]
    · rw [hv, hf]
    · rw [hv, hf]

/-- A rule is annotated by settling its code. -/
theorem annotate_eq (a : Analyzer) (r : Rule) :
    a.validator.annotate r = ⟨r.name, r.index, r.code.map a.settled⟩ := by
  unfold Validator.annotate
  cases hcode : r.code with
  | none => exact congrArg (Rule.mk r.name r.index) hcode
  | some b =>
    rw [Option.map_some]
    obtain ⟨-, hv, hs, -⟩ | ⟨e, -, -, hv, hs, -⟩ | ⟨parsed, -, -, hv, -, -⟩ := a.block_cases b
    · rw [hv, hs, ← hcode]
    · rw [hv, hs, ← hcode]
    · rw [hv]

theorem checkHeader_eq (a : Analyzer) (code : Option CodeBlock) :
    checkHeader a.validator code = (code.map a.settled, (a.fault? code).toList) := by
  cases code with
  | none => rfl
  | some b =>
    unfold checkHeader
    rw [Option.map_some]
    obtain ⟨-, hv, hs, hf⟩ | ⟨e, -, -, hv, hs, hf⟩ | ⟨parsed, -, -, hv, -, hf⟩ := a.block_cases b
    · rw [hv, hs, hf]; rfl
    · rw [hv, hs, hf]; rfl
    · rw [hv, hf]; rfl

end Analyzer

/-! ## The checks of names -/

namespace Grammar

/-- The names that are referenced and that no declaration has, by their smallest position; names
that share it are in the order of their first encounter. -/
def undeclared (g : Grammar) : List String :=
  g.references.ordered.filter fun name => name ∉ g.declarations.map (·.name)

/-- The declarations after the first, by position, whose name is referenced nowhere. -/
def unused (g : Grammar) : List Declaration :=
  (g.ordered.drop 1).filter fun d => d.name ∉ g.references.map (·.name)

theorem mem_undeclared {g : Grammar} {name : String} :
    name ∈ g.undeclared ↔
      (∃ r ∈ g.references, r.name = name) ∧ ∀ d ∈ g.declarations, d.name ≠ name := by
  rw [undeclared, List.mem_filter, References.mem_ordered, decide_eq_true_iff, List.mem_map]
  refine and_congr_right fun _ => ?_
  exact ⟨fun h d hd hn => h ⟨d, hd, hn⟩, fun h ⟨d, hd, hn⟩ => h d hd hn⟩

end Grammar

/-- The finding about a referenced name that has no declaration. -/
def Grammar.undeclaredFinding (g : Grammar) (name : String) : Finding :=
  .ofCause (.noReduction name (g.references.occurrences name))

/-- The finding about a declaration that is never used. -/
def Declaration.unusedFinding (d : Declaration) : Finding := .ofCause (.unusedRule d.name d.index)

theorem checkNoReductions_table (g : Grammar) (fs : Findings) :
    checkNoReductions ⟨g.table, fs⟩ = ⟨g.table, fs ++ g.undeclared.map g.undeclaredFinding⟩ := by
  have hfilter : (g.table.references.filter fun group => !g.table.isDeclared group.name) =
      g.undeclared.map fun name => ⟨name, g.references.occurrences name⟩ := by
    rw [Grammar.undeclared, Grammar.table, Grammar.referenceGroups, List.filter_map]
    refine congrArg (List.map _) (List.filter_congr fun name _ => ?_)
    exact (congrArg not (g.isDeclared_table name)).trans (decide_not ..).symm
  unfold checkNoReductions
  simp only [hfilter, List.map_map]
  rfl

theorem checkUnusedRules_table (g : Grammar) (fs : Findings) :
    checkUnusedRules ⟨g.table, fs⟩ = ⟨g.table, fs ++ g.unused.map Declaration.unusedFinding⟩ := by
  have hfilter : ((g.table.rules.drop 1).filter fun r => !g.table.isReferenced r.name) =
      g.unused.map Declaration.rule := by
    rw [Grammar.unused, Grammar.table, ← List.map_drop, List.filter_map]
    refine congrArg (List.map _) (List.filter_congr fun d _ => ?_)
    exact (congrArg not (g.isReferenced_table d.name)).trans (decide_not ..).symm
  unfold checkUnusedRules
  simp only [hfilter, List.map_map]
  rfl

/-! ## The run -/

namespace Analyzer

/-- The grammar that a run gives. -/
def annotated (a : Analyzer) (g : Grammar) : Grammar where
  declarations := g.declarations
  code := g.code.map a.settled
  analysis := some
    { rules := g.ordered.map fun d => ⟨d.name, d.index, d.code.map a.settled⟩
      references := g.referenceGroups
      combinators := g.combinators }

/-- The findings that a run gives. -/
def report (a : Analyzer) (g : Grammar) : Findings :=
  (a.fault? g.code).toList
    ++ g.undeclared.map g.undeclaredFinding
    ++ g.unused.map Declaration.unusedFinding
    ++ g.ordered.filterMap fun d => a.fault? d.code

theorem checkCode_table (a : Analyzer) (g : Grammar) (fs : Findings) :
    checkCode a.validator ⟨g.table, fs⟩ =
      ⟨{ g.table with rules := g.ordered.map fun d => ⟨d.name, d.index, d.code.map a.settled⟩ },
        fs ++ g.ordered.filterMap fun d => a.fault? d.code⟩ := by
  have hrules : g.table.rules.map a.validator.annotate =
      g.ordered.map fun d => ⟨d.name, d.index, d.code.map a.settled⟩ := by
    rw [Grammar.table, List.map_map]
    exact List.map_congr_left fun d _ => a.annotate_eq d.rule
  have hfaults : (g.table.rules.filterMap fun r => a.validator.finding? r.code) =
      g.ordered.filterMap fun d => a.fault? d.code := by
    rw [Grammar.table, List.filterMap_map]
    exact List.filterMap_congr fun d _ => a.finding?_eq d.code
  unfold checkCode
  rw [hrules, hfaults]

/-- **The result of a run**, in terms of the grammar and of single blocks. -/
theorem run_eq (a : Analyzer) (g : Grammar) :
    a.run g =
      if g.fits a.fuel then .ok (a.annotated g, a.report g)
      else .error .recursionLimitExceeded := by
  have hchecks :
      checkCode a.validator
        (checkUnusedRules (checkNoReductions ⟨g.table, (a.fault? g.code).toList⟩)) =
      ⟨{ g.table with rules := g.ordered.map fun d => ⟨d.name, d.index, d.code.map a.settled⟩ },
        a.report g⟩ := by
    rw [checkNoReductions_table, checkUnusedRules_table, checkCode_table]
    rfl
  unfold run
  rw [checkHeader_eq, symbolTable_eq]
  cases g.fits a.fuel with
  | false => rfl
  | true =>
    exact congrArg (fun c : Checked => Except.ok
      ({ g with code := g.code.map a.settled, analysis := some c.table }, c.findings)) hchecks

/-- A run that does not hit the recursion limit gives a result. -/
theorem run_eq_ok {a : Analyzer} {g : Grammar} (h : a.run g ≠ .error .recursionLimitExceeded) :
    a.run g = .ok (a.annotated g, a.report g) := by
  rw [run_eq] at h ⊢
  by_cases hfits : g.fits a.fuel = true
  · exact if_pos hfits
  · exact absurd (if_neg hfits) h

end Analyzer

/-! ## Findings and grammar -/

/-- An analyzer whose front end rejects one header and one piece of action code. -/
def sampleAnalyzer : Analyzer where
  frontEnd := Words.frontEnd
    [⟨"header(", true, "bad header"⟩, ⟨"rule(", false, "bad rule"⟩]

/-- A grammar with something to find in every place: its declarations are not in the order of their
positions, two undeclared names share their smallest position, and header and action code are
rejected. -/
def sampleGrammar : Grammar where
  declarations :=
    [{ name := "late", index := ⟨5, 1⟩, expr := .any, code := some { code := "rule(", index := ⟨5, 9⟩ } },
      { name := "start", index := ⟨2, 1⟩
        expr := .sequence [.nonterminal "b" ⟨2, 20⟩,
          .choice [.nonterminal "a" ⟨2, 10⟩, .nonterminal "b" ⟨2, 10⟩]]
        code := some { code := "node # x", index := ⟨2, 30⟩ } }]
  code := some { code := "header(", index := ⟨1, 1⟩ }

namespace Analyzer

theorem run_sampleGrammar_ne :
    sampleAnalyzer.run sampleGrammar ≠ .error .recursionLimitExceeded := by
  rw [run_eq, if_pos (by decide)]
  nofun

/-- **The findings of a run** that does not hit the recursion limit: the fault of the header, the
undeclared names, the unused declarations and the faults of the declarations' code. The undeclared
names are those that some node refers to and no declaration has, each once, by their smallest
position and then in the order of their first encounter. -/
theorem run_findings (a : Analyzer) (g : Grammar) (h : a.run g ≠ .error .recursionLimitExceeded) :
    (∃ g', a.run g = .ok (g',
      (a.fault? g.code).toList
        ++ g.undeclared.map (fun name =>
            .ofCause (.noReduction name (g.references.occurrences name)))
        ++ g.unused.map (fun d => .ofCause (.unusedRule d.name d.index))
        ++ g.ordered.filterMap fun d => a.fault? d.code)) ∧
    (∀ name, name ∈ g.undeclared ↔
      (∃ r ∈ g.references, r.name = name) ∧ ∀ d ∈ g.declarations, d.name ≠ name) ∧
    g.undeclared.Nodup ∧
    g.undeclared.Pairwise g.references.Before :=
  ⟨⟨a.annotated g, run_eq_ok h⟩, fun _ => Grammar.mem_undeclared,
    g.references.nodup_ordered.filter _, g.references.ordered_pairwise.filter _⟩

theorem run_findings_sample :
    sampleAnalyzer.run sampleGrammar ≠ .error .recursionLimitExceeded ∧
    ∃ g', sampleAnalyzer.run sampleGrammar = .ok (g',
      [.ofCause (.hostSyntaxError "bad header" ⟨1, 1⟩),
        .ofCause (.noReduction "b" [⟨2, 10⟩, ⟨2, 20⟩]),
        .ofCause (.noReduction "a" [⟨2, 10⟩]),
        .ofCause (.unusedRule "late" ⟨5, 1⟩),
        .ofCause (.hostParseError "bad rule" ⟨5, 9⟩)]) := by
  obtain ⟨⟨g', hg'⟩, -⟩ := run_findings sampleAnalyzer sampleGrammar run_sampleGrammar_ne
  exact ⟨run_sampleGrammar_ne, g', hg'.trans (congrArg (fun fs => Except.ok (g', fs)) (by cbv))⟩

/-- **The grammar of a run** that does not hit the recursion limit: the declarations as they were,
the header settled, and a table whose rules are the declarations by position with their code
settled. The old table plays no part, and the references and combinators depend on the expressions
alone, whatever becomes of any block of code. -/
theorem run_grammar (a : Analyzer) (g : Grammar) (h : a.run g ≠ .error .recursionLimitExceeded) :
    (∃ findings, a.run g = .ok (
      { declarations := g.declarations
        code := g.code.map a.settled
        analysis := some
          { rules := g.ordered.map fun d => ⟨d.name, d.index, d.code.map a.settled⟩
            references := g.referenceGroups
            combinators := g.combinators } }, findings)) ∧
    (∀ t, a.run { g with analysis := t } = a.run g) ∧
    ∀ g' : Grammar, g'.declarations.map (·.expr) = g.declarations.map (·.expr) →
      g'.referenceGroups = g.referenceGroups ∧ g'.combinators = g.combinators := by
  refine ⟨⟨a.report g, run_eq_ok h⟩, fun t => ?_, fun g' hexpr => ?_⟩
  · rw [run_eq, run_eq]
    rfl
  · have hnodes : g'.nodes = g.nodes := Grammar.nodes_congr hexpr
    unfold Grammar.referenceGroups Grammar.combinators Grammar.references
    rw [hnodes]
    exact ⟨rfl, rfl⟩

/-- The sample without any code. -/
def bareGrammar : Grammar where
  declarations := sampleGrammar.declarations.map fun d => { d with code := none }

theorem run_grammar_sample :
    sampleAnalyzer.run sampleGrammar ≠ .error .recursionLimitExceeded ∧
    (∃ findings, sampleAnalyzer.run sampleGrammar = .ok (
      { declarations := sampleGrammar.declarations
        code := sampleGrammar.code
        analysis := some
          { rules :=
              [⟨"start", ⟨2, 1⟩, some
                { code := "node # x", index := ⟨2, 30⟩
                  annotations := some
                    { parsed := [⟨.expression, "node", ⟨2, 30⟩⟩]
                      comments := [⟨.line, "# x", ⟨2, 35⟩⟩]
                      usedArgs := .ofList ["node"] } }⟩,
                ⟨"late", ⟨5, 1⟩, some { code := "rule(", index := ⟨5, 9⟩ }⟩]
            references := [⟨"b", [⟨2, 10⟩, ⟨2, 20⟩]⟩, ⟨"a", [⟨2, 10⟩]⟩]
            combinators := .ofList [.anything, .choice, .sequence] } }, findings)) ∧
    sampleAnalyzer.run { sampleGrammar with analysis := some {} } = sampleAnalyzer.run sampleGrammar ∧
    bareGrammar.declarations.map (·.expr) = sampleGrammar.declarations.map (·.expr) ∧
    bareGrammar.referenceGroups = sampleGrammar.referenceGroups := by
  obtain ⟨⟨fs, hfs⟩, hanalysis, hexpr⟩ :=
    run_grammar sampleAnalyzer sampleGrammar run_sampleGrammar_ne
  refine ⟨run_sampleGrammar_ne, ⟨fs, hfs.trans (congrArg (fun g => Except.ok (g, fs)) ?_)⟩,
    hanalysis _, rfl, (hexpr bareGrammar rfl).1⟩
  refine congrArg₂ (Grammar.mk _) ?_ ?_
  · cbv
  · cbv

end Analyzer

end PegCheck
