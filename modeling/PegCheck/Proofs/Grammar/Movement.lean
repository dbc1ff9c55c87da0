import PegCheck.Proofs.Host.Movement
import PegCheck.Proofs.SymbolTable.Canonical

/-!
# Moving a grammar

Positions are payload of a grammar, of its table and of findings, and they are what tables are
sorted by. A map of positions that keeps their order may be applied before or after all that is read
off a grammar: references are collected and grouped by name without a look at positions, and sorting
looks at their order alone.

* `Grammar.move`, `Finding.move` and their companions: a map of positions applied to all positions
  of a value.
* `Position.IsShift`: the map keeps the order, and it takes snippets along with their beginnings.
* `Expr.nodes_move`, `Expr.depth_move`: what moving does to the nodes of an expression.
* `References.occurrences_move`, `References.ordered_move`: what it does to references.
* **`Grammar.ordered_move`**, **`Grammar.referenceGroups_move`**: what it does to the table.
-/

namespace PegCheck

/-! ## Moving positions -/

section Move

variable (f : Position → Position)

/-- The annotations, moved. -/
def CodeAnnotations.move (x : CodeAnnotations) : CodeAnnotations where
  parsed := x.parsed.map (HostForm.move f)
  comments := x.comments.map (Comment.move f)
  usedArgs := x.usedArgs

/-- The block with its annotations, moved. -/
def CodeBlock.move (b : CodeBlock) : CodeBlock where
  code := b.code
  index := f b.index
  identity := b.identity
  annotations := b.annotations.map (CodeAnnotations.move f)

mutual

/-- The expression with all its references moved. -/
def Expr.move : Expr → Expr
  | .choice alternatives => .choice (Expr.moveList alternatives)
  | .sequence items => .sequence (Expr.moveList items)
  | .primary e modifier => .primary e.move modifier
  | .nonterminal name index => .nonterminal name (f index)
  | .terminal kind text => .terminal kind text

/-- Several expressions, each moved. -/
def Expr.moveList : List Expr → List Expr
  | [] => []
  | e :: es => e.move :: Expr.moveList es

end

/-- The declaration with its expression and its code, moved. -/
def Declaration.move (d : Declaration) : Declaration where
  name := d.name
  index := f d.index
  expr := d.expr.move f
  code := d.code.map (CodeBlock.move f)

/-- The rule with its code, moved. -/
def Rule.move (r : Rule) : Rule where
  name := r.name
  index := f r.index
  code := r.code.map (CodeBlock.move f)

/-- The references of a name, moved. -/
def ReferenceGroup.move (g : ReferenceGroup) : ReferenceGroup where
  name := g.name
  occurrences := g.occurrences.map f

/-- The table with all its positions moved. -/
def SymbolTable.move (t : SymbolTable) : SymbolTable where
  rules := t.rules.map (Rule.move f)
  references := t.references.map (ReferenceGroup.move f)
  combinators := t.combinators

/-- The grammar with all its positions moved, those of its table included. -/
def Grammar.move (g : Grammar) : Grammar where
  declarations := g.declarations.map (Declaration.move f)
  code := g.code.map (CodeBlock.move f)
  analysis := g.analysis.map (SymbolTable.move f)

/-- The cause with all its positions moved. -/
def Cause.move : Cause → Cause
  | .noReduction name occurrences => .noReduction name (occurrences.map f)
  | .unusedRule name index => .unusedRule name (f index)
  | .hostSyntaxError info location => .hostSyntaxError info (f location)
  | .hostParseError reason location => .hostParseError reason (f location)

/-- The finding, moved. -/
def Finding.move (x : Finding) : Finding where
  severity := x.severity
  cause := x.cause.move f

/-- The reference, moved. -/
def Reference.move (r : Reference) : Reference where
  name := r.name
  index := f r.index

end Move

namespace Position

/-- The map keeps the order of positions, and where a snippet begins, the snippet goes. -/
structure IsShift (f : Position → Position) : Prop where
  le_iff (p q : Position) : f p ≤ f q ↔ p ≤ q
  carries (start : Position) : Carries f start (f start)

theorem IsShift.decide_le {f : Position → Position} (h : IsShift f) (p q : Position) :
    decide (f p ≤ f q) = decide (p ≤ q) := by
  rw [Bool.eq_iff_iff, decide_eq_true_iff, decide_eq_true_iff, h.le_iff]

theorem IsShift.firstLe {f : Position → Position} (h : IsShift f) (p q : Option Position) :
    firstLe (p.map f) (q.map f) = PegCheck.firstLe p q := by
  cases p with
  | none => rfl
  | some p =>
    cases q with
    | none => rfl
    | some q => exact h.decide_le p q

end Position

variable {f : Position → Position}

/-! ## Nodes -/

namespace Expr

theorem reference?_move (e : Expr) : (e.move f).reference? = e.reference?.map (Reference.move f) := by
  cases e <;> rfl

theorem combinator?_move (e : Expr) : (e.move f).combinator? = e.combinator? := by
  cases e <;> rfl

mutual

/-- The nodes of the moved expression are the nodes, moved. -/
theorem nodes_move : ∀ e : Expr, (e.move f).nodes = e.nodes.map (move f)
  | .choice alternatives => by
    rw [move, nodes, nodes, List.map_cons, move, nodesOfList_moveList alternatives]
  | .sequence items => by
    rw [move, nodes, nodes, List.map_cons, move, nodesOfList_moveList items]
  | .primary e modifier => by
    rw [move, nodes, nodes, List.map_cons, move, nodes_move e]
  | .nonterminal name index => rfl
  | .terminal kind text => rfl

theorem nodesOfList_moveList :
    ∀ es : List Expr, nodesOfList (moveList f es) = (nodesOfList es).map (move f)
  | [] => rfl
  | e :: es => by
    rw [moveList, nodesOfList, nodesOfList, List.map_append, nodes_move e, nodesOfList_moveList es]

end

mutual

theorem depth_move : ∀ e : Expr, (e.move f).depth = e.depth
  | .choice alternatives => by rw [move, depth, depth, depthOfList_moveList alternatives]
  | .sequence items => by rw [move, depth, depth, depthOfList_moveList items]
  | .primary e modifier => by rw [move, depth, depth, depth_move e]
  | .nonterminal name index => rfl
  | .terminal kind text => rfl

theorem depthOfList_moveList : ∀ es : List Expr, depthOfList (moveList f es) = depthOfList es
  | [] => rfl
  | e :: es => by
    rw [moveList, depthOfList, depthOfList, depth_move e, depthOfList_moveList es]

end

end Expr

/-! ## References -/

namespace References

theorem names_move (rs : References) : names (rs.map (Reference.move f)) = rs.names := by
  rw [names, names, List.map_map]
  rfl

theorem positions_move (rs : References) (name : String) :
    positions (rs.map (Reference.move f)) name = (rs.positions name).map f := by
  rw [positions, positions, List.filter_map, List.map_map, List.map_map]
  rfl

variable (h : Position.IsShift f)

include h

/-- The positions of a name are in the same order when they are moved. -/
theorem occurrences_move (rs : References) (name : String) :
    occurrences (rs.map (Reference.move f)) name = (rs.occurrences name).map f := by
  rw [occurrences, occurrences, positions_move]
  exact (List.map_mergeSort fun p _ q _ => (h.decide_le p q).symm).symm

/-- And so are the names by their smallest positions. -/
theorem ordered_move (rs : References) : ordered (rs.map (Reference.move f)) = rs.ordered := by
  -- The names are the same; only the positions that they are compared by are moved.
  have hfirst (name : String) :
      first? (rs.map (Reference.move f)) name = (rs.first? name).map f := by
    rw [first?, first?, occurrences_move h, List.head?_map]
  unfold ordered
  simp only [names_move, hfirst, h.firstLe]

end References

/-! ## Grammars and their tables -/

namespace Grammar

variable (g : Grammar)

theorem nodes_move : (g.move f).nodes = g.nodes.map (Expr.move f) := by
  simp only [nodes, move, List.flatMap_map, List.map_flatMap]
  exact List.flatMap_congr fun d _ => d.expr.nodes_move

theorem references_move : (g.move f).references = g.references.map (Reference.move f) := by
  rw [references, references, nodes_move, List.filterMap_map, List.map_filterMap]
  exact List.filterMap_congr fun e _ => e.reference?_move

theorem combinators_move : (g.move f).combinators = g.combinators := by
  have hread : (fun e : Expr => (e.move f).combinator?) = Expr.combinator? := by
    funext e
    exact e.combinator?_move
  rw [combinators, combinators, nodes_move, List.filterMap_map]
  exact congrArg (fun read => OrderedSet.ofList (g.nodes.filterMap read)) hread

theorem names_move : (g.move f).declarations.map (·.name) = g.declarations.map (·.name) := by
  simp [move, Declaration.move]

theorem fits_move (fuel : Option Nat) : (g.move f).fits fuel = g.fits fuel := by
  simp only [fits, move, List.all_map, Function.comp_def, Declaration.move, Expr.depth_move]

variable (h : Position.IsShift f)

include h

/-- **The declarations by position** are in the same order when they are moved. -/
theorem ordered_move : (g.move f).ordered = g.ordered.map (Declaration.move f) :=
  (List.map_mergeSort fun d _ e _ => (h.decide_le d.index e.index).symm).symm

/-- **The groups of references** are the same groups in the same order, each moved. -/
theorem referenceGroups_move :
    (g.move f).referenceGroups = g.referenceGroups.map (ReferenceGroup.move f) := by
  rw [referenceGroups, referenceGroups, references_move, References.ordered_move h, List.map_map]
  refine List.map_congr_left fun name _ => ?_
  rw [References.occurrences_move h]
  rfl

end Grammar

end PegCheck
