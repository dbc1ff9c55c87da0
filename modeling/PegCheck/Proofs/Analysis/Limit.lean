import PegCheck.Proofs.Analysis.Run

/-!
# The recursion limit

An analyzer may bound how deep expressions nest. The bound is spent on the way down from the root of
an expression and handed on unchanged to all children of a node, so what it limits is the length of
the paths from a root to a leaf, one declaration at a time.

* `Expr.Path`: the nodes from an expression down to a leaf, both included.
* `Expr.isGreatest_depth`: the depth of an expression is the number of nodes on its longest path.
* `collect_limit`, `Analyzer.run_limit`: collecting and running under a bound, in terms of the
  result without one.
* **`collect_and_run_limit`**: where the bound lies, and that nothing else depends on it.
-/

namespace PegCheck

namespace Expr

/-! ## Paths -/

/-- The expressions directly below an expression, from left to right. -/
def children : Expr → List Expr
  | .choice alternatives => alternatives
  | .sequence items => items
  | .primary e _ => [e]
  | .nonterminal .. => []
  | .terminal .. => []

/-- The nodes lead from an expression down to a leaf, one child at a time. A choice or a sequence
without children is a leaf. -/
inductive Path : Expr → List Expr → Prop
  | leaf {e : Expr} (h : e.children = []) : Path e [e]
  | down {e child : Expr} {nodes : List Expr} (h : child ∈ e.children) (rest : Path child nodes) :
      Path e (e :: nodes)

theorem depth_eq_children (e : Expr) : e.depth = depthOfList e.children + 1 := by
  cases e with
  | choice alternatives => rw [depth, children]
  | sequence items => rw [depth, children]
  | primary e modifier => simp [depth, children, depthOfList]
  | nonterminal name index => simp [depth, children, depthOfList]
  | terminal kind text => simp [depth, children, depthOfList]

theorem depth_le_depthOfList {e : Expr} {es : List Expr} (h : e ∈ es) :
    e.depth ≤ depthOfList es := by
  induction es with
  | nil => nomatch h
  | cons f es ih =>
    rw [depthOfList]
    rcases List.mem_cons.mp h with rfl | h
    · exact Nat.le_max_left _ _
    · exact (ih h).trans (Nat.le_max_right _ _)

theorem exists_depth_eq_depthOfList {es : List Expr} (h : es ≠ []) :
    ∃ e ∈ es, e.depth = depthOfList es := by
  induction es with
  | nil => exact absurd rfl h
  | cons f es ih =>
    by_cases hf : depthOfList es ≤ f.depth
    · exact ⟨f, List.mem_cons_self, by rw [depthOfList, Nat.max_eq_left hf]⟩
    · -- A later expression is deeper than the first one, so there is one.
      have hne : es ≠ [] := by
        rintro rfl
        exact hf (Nat.zero_le _)
      obtain ⟨e, he, hdepth⟩ := ih hne
      exact ⟨e, List.mem_cons_of_mem _ he, by rw [depthOfList, hdepth]; omega⟩

/-- No path is longer than the depth. -/
theorem Path.length_le_depth {e : Expr} {nodes : List Expr} (h : e.Path nodes) :
    nodes.length ≤ e.depth := by
  induction h with
  | @leaf e h =>
    rw [depth_eq_children]
    simp
  | @down e child nodes h rest ih =>
    have hchild := depth_le_depthOfList h
    rw [depth_eq_children, List.length_cons]
    omega

/-- Some path is as long as the depth: it takes the deepest child at every node. -/
theorem exists_path_length_eq (e : Expr) : ∃ nodes, e.Path nodes ∧ nodes.length = e.depth := by
  induction hn : e.depth generalizing e with
  | zero =>
    rw [depth_eq_children] at hn
    omega
  | succ n ih =>
    rw [depth_eq_children, Nat.add_right_cancel_iff] at hn
    by_cases hleaf : e.children = []
    · rw [hleaf, depthOfList] at hn
      exact ⟨[e], .leaf hleaf, by rw [← hn]; rfl⟩
    · obtain ⟨child, hchild, hdepth⟩ := exists_depth_eq_depthOfList hleaf
      obtain ⟨nodes, hpath, hlength⟩ := ih child (hdepth.trans hn)
      exact ⟨e :: nodes, .down hchild hpath, by rw [List.length_cons, hlength]⟩

/-- **The depth of an expression** is the number of nodes on its longest path to a leaf. -/
theorem isGreatest_depth (e : Expr) :
    IsGreatest {n | ∃ nodes, e.Path nodes ∧ nodes.length = n} e.depth := by
  constructor
  · exact e.exists_path_length_eq
  · rintro n ⟨nodes, hpath, rfl⟩
    exact hpath.length_le_depth

example : (sequence []).depth = 1 ∧ (choice [sequence [], primary any none]).depth = 3 := by decide

end Expr

/-! ## The limit -/

/-- The fuel lasts unless some declaration is deeper than it. -/
theorem Grammar.ite_fits_some {α : Type} (g : Grammar) (n : Nat) (x y : α) :
    (if g.fits (some n) then x else y) =
      if ∃ d ∈ g.declarations, n < d.expr.depth then y else x := by
  have hfits : g.fits (some n) = true ↔ ¬ ∃ d ∈ g.declarations, n < d.expr.depth := by
    simp only [fits, covers, List.all_eq_true, decide_eq_true_eq, not_exists, not_and, not_lt]
  rw [if_congr hfits rfl rfl, ite_not]

/-- Collecting under a bound gives the table that there is without one, unless some declaration is
too deep. -/
theorem collect_limit (ds : List Declaration) (n : Nat) :
    ∃ table, collect ds none = .ok table ∧
      collect ds (some n) = if ∃ d ∈ ds, n < d.expr.depth then .error {} else .ok table := by
  have hcollect (fuel : Option Nat) := Grammar.collect_eq fuel { declarations := ds }
  refine ⟨_, (hcollect none).trans (if_pos (Grammar.fits_none _)), ?_⟩
  exact (hcollect (some n)).trans (Grammar.ite_fits_some _ n _ _)

namespace Analyzer

/-- A run under a bound gives the result that there is without one, unless some declaration is too
deep. -/
theorem run_limit (a : Analyzer) (g : Grammar) (n : Nat) :
    ∃ result, run { a with fuel := none } g = .ok result ∧
      run { a with fuel := some n } g =
        if ∃ d ∈ g.declarations, n < d.expr.depth then .error .recursionLimitExceeded
        else .ok result := by
  refine ⟨_, (run_eq _ g).trans (if_pos g.fits_none), ?_⟩
  exact (run_eq _ g).trans (g.ite_fits_some n _ _)

end Analyzer

/-- **The recursion limit** is hit exactly if some declaration has a path of more nodes than the
limit allows, whatever else is wrong with the grammar, and otherwise the result is the one without a
limit. Without a limit there always is a result. -/
theorem collect_and_run_limit (n : Nat) :
    (∀ e : Expr, IsGreatest {m | ∃ nodes, e.Path nodes ∧ nodes.length = m} e.depth) ∧
    (∀ ds : List Declaration, ∃ table, collect ds none = .ok table ∧
      collect ds (some n) = if ∃ d ∈ ds, n < d.expr.depth then .error {} else .ok table) ∧
    ∀ (a : Analyzer) (g : Grammar), ∃ result, Analyzer.run { a with fuel := none } g = .ok result ∧
      Analyzer.run { a with fuel := some n } g =
        if ∃ d ∈ g.declarations, n < d.expr.depth then .error .recursionLimitExceeded
        else .ok result :=
  ⟨Expr.isGreatest_depth, fun ds => collect_limit ds n, fun a g => a.run_limit g n⟩

end PegCheck
