import PegCheck.Proofs.Grammar.References
import PegCheck.Proofs.OrderedSet

/-!
# Collecting reads the table off the nodes

`collect` threads a table through two recursions, and writes a combinator before or after it goes
down, depending on the node. All of that comes to one pass over the nodes in preorder.

* `SymbolTable.visit` puts a list of nodes into a table, the references in order and the combinators
  as a set.
* `Expr.collect_eq`: collecting from an expression is visiting its nodes, unless it nests deeper
  than the fuel allows. The induction is over the tree, for every table that comes in.
* `References.foldl_addTo`: references put into an empty table one by one are grouped by name; the
  names are in the order in which they are first met, and each has its positions in order.
* **`Grammar.collect_eq`**: the collected table of a grammar, in terms of the grammar's nodes.
-/

namespace PegCheck

/-! ## Visiting nodes -/

namespace SymbolTable

/-- Puts a reference into the groups of a table. -/
def addTo (groups : List ReferenceGroup) (r : Reference) : List ReferenceGroup :=
  addOccurrence r.name r.index groups

/-- Puts nodes into a table, one after the other. -/
def visit (t : SymbolTable) (nodes : List Expr) : SymbolTable :=
  { t with
    references := (nodes.filterMap Expr.reference?).foldl addTo t.references
    combinators := (nodes.filterMap Expr.combinator?).foldl (fun s c => s.insert c) t.combinators }

theorem visit_nil (t : SymbolTable) : t.visit [] = t := rfl

theorem visit_append (t : SymbolTable) (a b : List Expr) :
    t.visit (a ++ b) = (t.visit a).visit b := by
  simp only [visit, List.filterMap_append, List.foldl_append]

/-- The combinator of a node may be added after the nodes below it. -/
theorem visit_addCombinator {e : Expr} {c : Combinator} (hr : e.reference? = none)
    (hc : e.combinator? = some c) (t : SymbolTable) (nodes : List Expr) :
    (t.visit nodes).addCombinator c = t.visit (e :: nodes) := by
  simp only [visit, addCombinator, List.filterMap_cons, hr, hc, List.foldl_cons,
    OrderedSet.foldl_insert_insert]

/-- A node without a reference and a combinator leaves the table as it is. -/
theorem visit_cons_of_none {e : Expr} (hr : e.reference? = none) (hc : e.combinator? = none)
    (t : SymbolTable) (nodes : List Expr) : t.visit (e :: nodes) = t.visit nodes := by
  simp only [visit, List.filterMap_cons, hr, hc]

end SymbolTable

/-! ## One expression -/

/-- What becomes of a table when nodes of the given depth are read. -/
def visited (fuel : Option Nat) (depth : Nat) (t : SymbolTable) (nodes : List Expr) :
    Except LimitExceeded SymbolTable :=
  if covers fuel depth then .ok (t.visit nodes) else .error {}

/-- **A node with children.** It takes one unit of fuel; its children, of depth `d`, are read with
the rest; and what `f` then adds is what the node itself adds. -/
theorem spend_visited {fuel : Option Nat} {d : Nat} {t : SymbolTable} {below nodes : List Expr}
    {k : Option Nat → Except LimitExceeded SymbolTable} {f : SymbolTable → SymbolTable}
    (hk : ∀ fuel, k fuel = visited fuel d t below) (hf : f (t.visit below) = t.visit nodes) :
    (spend fuel >>= fun fuel => k fuel >>= fun t => pure (f t)) = visited fuel (d + 1) t nodes := by
  match fuel with
  | none =>
    show (k none >>= fun t => pure (f t)) = .ok (t.visit nodes)
    rw [hk, ← hf]
    rfl
  | some 0 => rfl
  | some (n + 1) =>
    show (k (some n) >>= fun t => pure (f t)) = _
    rw [hk, visited, visited, ← hf]
    by_cases hd : d ≤ n
    · rw [if_pos (by simpa [covers] using hd), if_pos (by simpa [covers] using hd)]
      rfl
    · rw [if_neg (by simpa [covers] using hd), if_neg (by simpa [covers] using hd)]
      rfl

namespace Expr

mutual

/-- **Collecting from an expression is visiting its nodes**, if the fuel allows for its depth. -/
theorem collect_eq (fuel : Option Nat) (t : SymbolTable) :
    ∀ e : Expr, e.collect fuel t = visited fuel e.depth t e.nodes
  | .choice alternatives => by
    rw [collect, depth, nodes]
    exact spend_visited (fun fuel => collectList_eq fuel t alternatives)
      (SymbolTable.visit_addCombinator rfl rfl t _)
  | .sequence items => by
    rw [collect, depth, nodes]
    exact spend_visited (fun fuel => collectList_eq fuel t items)
      (SymbolTable.visit_addCombinator rfl rfl t _)
  | .primary e modifier => by
    rw [collect, depth, nodes]
    refine spend_visited (fun fuel => collect_eq fuel t e) ?_
    cases modifier with
    | none => exact (SymbolTable.visit_cons_of_none rfl rfl t e.nodes).symm
    | some m => exact SymbolTable.visit_addCombinator rfl rfl t e.nodes
  | .nonterminal name index => by
    match fuel with
    | none => rfl
    | some 0 => rfl
    | some (n + 1) => rfl
  | .terminal kind text => by
    match fuel with
    | none => rfl
    | some 0 => rfl
    | some (n + 1) => rfl

/-- The same for several expressions, each read into the table that the one before it left. -/
theorem collectList_eq (fuel : Option Nat) (t : SymbolTable) :
    ∀ es : List Expr, collectList fuel t es = visited fuel (depthOfList es) t (nodesOfList es)
  | [] => by
    rw [collectList, visited, depthOfList, nodesOfList, SymbolTable.visit_nil]
    cases fuel <;> rfl
  | e :: es => by
    rw [collectList, collect_eq fuel t e, depthOfList, nodesOfList]
    unfold visited
    rw [covers_max, SymbolTable.visit_append]
    cases covers fuel e.depth with
    | false => rfl
    | true => exact collectList_eq fuel (t.visit e.nodes) es

end

end Expr

/-! ## Grouping references by name -/

namespace SymbolTable

/-- A reference to a name without a group opens one at the end. -/
theorem addOccurrence_of_not_mem {name : String} (p : Position) (f : String → List Position) :
    ∀ {ns : List String}, name ∉ ns →
      addOccurrence name p (ns.map fun n => ⟨n, f n⟩) = (ns.map fun n => ⟨n, f n⟩) ++ [⟨name, [p]⟩]
  | [], _ => rfl
  | n :: ns, h => by
    obtain ⟨hn, hns⟩ := not_or.mp (mt List.mem_cons.mpr h)
    rw [List.map_cons, addOccurrence, if_neg (by simpa using Ne.symm hn),
      addOccurrence_of_not_mem p f hns, List.cons_append]

/-- A reference to a name with a group is put at the end of that group. -/
theorem addOccurrence_of_mem {name : String} (p : Position) (f : String → List Position) :
    ∀ {ns : List String}, name ∈ ns → ns.Nodup →
      addOccurrence name p (ns.map fun n => ⟨n, f n⟩) =
        ns.map fun n => ⟨n, if name = n then f n ++ [p] else f n⟩
  | n :: ns, h, hn => by
    obtain ⟨hnn, hns⟩ := List.nodup_cons.mp hn
    rw [List.map_cons, List.map_cons, addOccurrence]
    by_cases hname : name = n
    · subst hname
      rw [if_pos (beq_self_eq_true _), if_pos rfl]
      refine congrArg _ (List.map_congr_left fun m hm => ?_)
      rw [if_neg]
      rintro rfl
      exact hnn hm
    · rw [if_neg (by simpa using Ne.symm hname), if_neg hname,
        addOccurrence_of_mem p f ((List.mem_cons.mp h).resolve_left hname) hns]

/-- A name has a group exactly if it is one of the names of which there are groups. -/
theorem find?_groups (name : String) (f : String → List Position) (ns : List String) :
    (ns.map fun n => (⟨n, f n⟩ : ReferenceGroup)).find? (·.name == name) =
      if name ∈ ns then some ⟨name, f name⟩ else none := by
  induction ns with
  | nil => rfl
  | cons n ns ih =>
    rw [List.map_cons]
    by_cases hname : n = name
    · subst hname
      rw [List.find?_cons_of_pos (by simp), if_pos List.mem_cons_self]
    · rw [List.find?_cons_of_neg (by simpa using hname), ih]
      exact if_congr (by simp [Ne.symm hname]) rfl rfl

end SymbolTable

namespace References

/-- The groups of references: a group for each name, in the order of their first encounter. -/
def groups (rs : References) : List ReferenceGroup :=
  rs.names.map fun name => ⟨name, rs.positions name⟩

/-- **References added one by one are grouped by name.** -/
theorem foldl_addTo (rs : References) : rs.foldl SymbolTable.addTo [] = rs.groups := by
  induction rs using List.reverseRecOn with
  | nil => rfl
  | append_singleton rs r ih =>
    rw [List.foldl_append, ih, List.foldl_cons, List.foldl_nil]
    unfold SymbolTable.addTo groups
    rw [names_concat]
    split
    · rename_i h
      rw [SymbolTable.addOccurrence_of_mem r.index _ h (nodup_names rs)]
      exact List.map_congr_left fun n _ => by rw [positions_concat]
    · rename_i h
      rw [SymbolTable.addOccurrence_of_not_mem r.index _ h, List.map_append]
      refine congrArg₂ _ (List.map_congr_left fun n hn => ?_) ?_
      · rw [positions_concat, if_neg]
        rintro rfl
        exact h hn
      · rw [List.map_singleton, positions_concat, if_pos rfl, positions_eq_nil h, List.nil_append]

end References

/-! ## All declarations -/

namespace Declaration

/-- What the table keeps of a declaration. -/
def rule (d : Declaration) : Rule := ⟨d.name, d.index, d.code⟩

theorem collect_eq (fuel : Option Nat) (t : SymbolTable) (d : Declaration) :
    d.collect fuel t =
      if covers fuel d.expr.depth then .ok ((t.visit d.nodes).addRule d.rule) else .error {} := by
  unfold collect
  rw [d.expr.collect_eq fuel t, visited]
  split <;> rfl

/-- Collecting from declarations visits their nodes and appends their rules. -/
theorem foldlM_collect (fuel : Option Nat) (ds : List Declaration) (t : SymbolTable) :
    ds.foldlM (Declaration.collect fuel) t =
      if ds.all fun d => covers fuel d.expr.depth then
        .ok { t.visit (ds.flatMap Declaration.nodes) with
          rules := t.rules ++ ds.map Declaration.rule }
      else .error {} := by
  induction ds generalizing t with
  | nil => rw [List.map_nil, List.append_nil]; rfl
  | cons d ds ih =>
    rw [List.foldlM_cons, collect_eq, List.all_cons]
    cases covers fuel d.expr.depth with
    | false => rfl
    | true =>
      show ds.foldlM (Declaration.collect fuel) ((t.visit d.nodes).addRule d.rule) = _
      rw [ih, Bool.true_and, List.flatMap_cons, SymbolTable.visit_append, List.map_cons]
      simp only [SymbolTable.visit, SymbolTable.addRule, List.append_assoc, List.singleton_append]

end Declaration

namespace Grammar

/-- The table of a grammar in the order of its tree. -/
def collected (g : Grammar) : SymbolTable where
  rules := g.declarations.map Declaration.rule
  references := g.references.groups
  combinators := g.combinators

/-- **The collected table is read off the nodes**, and it is refused only if some declaration nests
deeper than the fuel allows. -/
theorem collect_eq (fuel : Option Nat) (g : Grammar) :
    collect g.declarations fuel = if g.fits fuel then .ok g.collected else .error {} := by
  rw [collect, Declaration.foldlM_collect]
  refine if_congr Iff.rfl (congrArg Except.ok ?_) rfl
  unfold collected
  rw [← References.foldl_addTo]
  rfl

end Grammar

end PegCheck
