import PegCheck.Proofs.SymbolTable.Traversal

/-!
# Reading a table and merging two

The table that is collected from declarations is what a reader of the trees would write down, going
from left to right and down before on: the rules as they come, the names as they are first met, the
positions of each name as it is met again. Reading declarations in two parts and merging what was
written down comes to the same.

* `SymbolTable.ReadsOff`: what there is to say of a table that is read off declarations.
* `Grammar.readsOff_iff`: the collected table is such a table, and there is no other.
* `SymbolTable.merge`: rules after rules, the positions of a name after its positions, new names at
  the end, and the combinators of both.
* `References.groups_append`: grouping references in two parts.
* **`collect_readsOff`**: collecting without a bound reads the table off, and the table of two lists
  of declarations is the merge of their tables.
-/

namespace PegCheck

namespace SymbolTable

/-- The table says of the declarations of a grammar what a reader meets on the way through their
nodes in preorder. -/
structure ReadsOff (t : SymbolTable) (g : Grammar) : Prop where
  rules : t.rules = g.declarations.map fun d => ⟨d.name, d.index, d.code⟩
  mem_names : ∀ name,
    name ∈ t.references.map (·.name) ↔ ∃ d ∈ g.declarations, ∃ p, .nonterminal name p ∈ d.nodes
  /-- The names are in the order in which they are first met, so there is none twice. -/
  names_order : (t.references.map (·.name)).Pairwise fun m n =>
    (g.references.map (·.name)).idxOf m < (g.references.map (·.name)).idxOf n
  /-- The positions of a name are those at which it is met, in that order. -/
  occurrences : ∀ group ∈ t.references,
    group.occurrences = (g.references.filter fun r => r.name == group.name).map (·.index)
  combinators : ∀ c, c ∈ t.combinators ↔ ∃ e ∈ g.nodes, e.combinator? = some c

/-- Both tables in one, the first before the second. -/
def merge (t u : SymbolTable) : SymbolTable where
  rules := t.rules ++ u.rules
  references :=
    (t.references.map fun group =>
        { group with occurrences := group.occurrences ++ u.occurrences group.name }) ++
      u.references.filter fun group => !t.isReferenced group.name
  combinators := u.combinators.toList.foldl (fun s c => s.insert c) t.combinators

end SymbolTable

/-! ## The collected table is read off -/

namespace Grammar

theorem names_collected (g : Grammar) :
    g.collected.references.map (·.name) = g.references.names := by
  rw [collected, References.groups, List.map_map]
  exact List.map_id _

theorem readsOff_collected (g : Grammar) : g.collected.ReadsOff g where
  rules := rfl
  mem_names name := by
    rw [names_collected, References.names, List.mem_eraseDups]
    exact mem_map_references
  names_order := by
    rw [names_collected]
    exact g.references.names_pairwise
  occurrences group hgroup := by
    obtain ⟨name, -, rfl⟩ := List.mem_map.mp hgroup
    rfl
  combinators c := by
    rw [collected, combinators, OrderedSet.mem_ofList, List.mem_filterMap]

end Grammar

/-! ## There is only one such table -/

namespace SymbolTable.ReadsOff

variable {t u : SymbolTable} {g : Grammar}

theorem nodup_names (ht : t.ReadsOff g) : (t.references.map (·.name)).Nodup := by
  refine ht.names_order.imp fun {m n} hlt heq => ?_
  rw [heq] at hlt
  exact Nat.lt_irrefl _ hlt

theorem names_eq (ht : t.ReadsOff g) (hu : u.ReadsOff g) :
    t.references.map (·.name) = u.references.map (·.name) := by
  have hperm : (t.references.map (·.name)).Perm (u.references.map (·.name)) :=
    (List.perm_ext_iff_of_nodup ht.nodup_names hu.nodup_names).mpr fun name =>
      (ht.mem_names name).trans (hu.mem_names name).symm
  refine hperm.eq_of_pairwise (fun m n _ _ hmn hnm => ?_) ht.names_order hu.names_order
  exact absurd hmn (Nat.lt_asymm hnm)

/-- The groups are determined by the names. -/
theorem references_eq_map (ht : t.ReadsOff g) :
    t.references =
      (t.references.map (·.name)).map fun name => ⟨name, g.references.positions name⟩ := by
  rw [List.map_map]
  refine (List.map_id _).symm.trans (List.map_congr_left fun group hgroup => ?_)
  exact congrArg (ReferenceGroup.mk group.name) (ht.occurrences group hgroup)

theorem eq (ht : t.ReadsOff g) (hu : u.ReadsOff g) : t = u := by
  have hrules : t.rules = u.rules := ht.rules.trans hu.rules.symm
  have hreferences : t.references = u.references := by
    rw [ht.references_eq_map, hu.references_eq_map, ht.names_eq hu]
  have hcombinators : t.combinators = u.combinators :=
    OrderedSet.ext fun c => (ht.combinators c).trans (hu.combinators c).symm
  cases t
  exact congr (congrArg₂ SymbolTable.mk hrules hreferences) hcombinators

end SymbolTable.ReadsOff

/-- The collected table is read off the nodes, and no other table is. -/
theorem Grammar.readsOff_iff (g : Grammar) (t : SymbolTable) : t.ReadsOff g ↔ t = g.collected :=
  ⟨fun ht => ht.eq g.readsOff_collected, fun ht => ht ▸ g.readsOff_collected⟩

/-! ## References in two parts -/

namespace References

theorem positions_append (rs ss : References) (name : String) :
    positions (rs ++ ss) name = rs.positions name ++ ss.positions name := by
  rw [positions, List.filter_append, List.map_append]
  rfl

/-- The names of the first part come first; of the second part there are those not met before. -/
theorem names_append (rs ss : References) :
    names (rs ++ ss) = rs.names ++ ss.names.filter (· ∉ rs.names) := by
  induction ss using List.reverseRecOn with
  | nil => simp [names]
  | append_singleton ss r ih =>
    rw [← List.append_assoc, names_concat, names_concat, ih]
    by_cases hs : r.name ∈ names ss
    · rw [if_pos hs, if_pos]
      by_cases hr : r.name ∈ rs.names
      · exact List.mem_append_left _ hr
      · exact List.mem_append_right _ (List.mem_filter.mpr ⟨hs, by simpa using hr⟩)
    · have hfilter : r.name ∉ (names ss).filter (· ∉ rs.names) := fun h =>
        hs (List.mem_filter.mp h).1
      rw [if_neg hs, List.filter_append, ← List.append_assoc]
      by_cases hr : r.name ∈ rs.names
      · rw [if_pos (List.mem_append_left _ hr), List.filter_cons_of_neg (by simpa using hr),
          List.filter_nil, List.append_nil]
      · rw [if_neg (by simpa [hr] using hfilter), List.filter_cons_of_pos (by simpa using hr),
          List.filter_nil]

/-- **Grouping references in two parts**: a name that is met in both has the positions of the first
part before those of the second. -/
theorem groups_append (rs ss : References) :
    groups (rs ++ ss) =
      (rs.groups.map fun group =>
          { group with occurrences := group.occurrences ++ ss.positions group.name }) ++
        ss.groups.filter fun group => group.name ∉ rs.names := by
  unfold groups
  rw [names_append, List.map_append, List.map_map, List.filter_map]
  refine congrArg₂ _ (List.map_congr_left fun name _ => ?_)
    (List.map_congr_left fun name hname => ?_)
  · rw [positions_append]
    rfl
  · have hnew : name ∉ rs.names := by simpa using (List.mem_filter.mp hname).2
    rw [positions_append, positions_eq_nil hnew, List.nil_append]

end References

namespace Grammar

theorem occurrences_collected (g : Grammar) (name : String) :
    g.collected.occurrences name = g.references.positions name := by
  rw [SymbolTable.occurrences, SymbolTable.group, collected, References.groups,
    SymbolTable.find?_groups]
  split
  · rfl
  · rename_i hname
    rw [References.positions_eq_nil hname]
    rfl

theorem isReferenced_collected (g : Grammar) (name : String) :
    g.collected.isReferenced name = decide (name ∈ g.references.names) := by
  rw [SymbolTable.isReferenced, SymbolTable.group, collected, References.groups,
    SymbolTable.find?_groups]
  split <;> simp [*]

section Append

variable (ds es : List Declaration)

theorem nodes_append : nodes { declarations := ds ++ es } =
    nodes { declarations := ds } ++ nodes { declarations := es } := List.flatMap_append

theorem references_append : references { declarations := ds ++ es } =
    references { declarations := ds } ++ references { declarations := es } := by
  rw [references, nodes_append, List.filterMap_append]
  rfl

theorem combinators_append : combinators { declarations := ds ++ es } =
    (combinators { declarations := es }).toList.foldl (fun s c => s.insert c)
      (combinators { declarations := ds }) := by
  refine OrderedSet.ext fun c => ?_
  rw [OrderedSet.mem_foldl_insert, ← OrderedSet.mem_def, combinators, combinators, combinators,
    OrderedSet.mem_ofList, OrderedSet.mem_ofList, OrderedSet.mem_ofList, nodes_append,
    List.filterMap_append, List.mem_append]
  exact or_comm

/-- **The table of two lists of declarations** is the merge of their tables. -/
theorem collected_append :
    collected { declarations := ds ++ es } =
      (collected { declarations := ds }).merge (collected { declarations := es }) := by
  rw [SymbolTable.merge]
  simp only [occurrences_collected, isReferenced_collected]
  rw [collected, references_append, combinators_append, References.groups_append, List.map_append]
  simp only [collected, decide_not]

end Append

end Grammar

/-- **Collecting is reading.** Without a bound there always is a table. It is read off the nodes of
the declarations, going from left to right in preorder, and no other table is; and the table of two
lists of declarations is the merge of their tables. -/
theorem collect_readsOff (ds es : List Declaration) :
    ∃ t u, collect ds none = .ok t ∧ collect es none = .ok u ∧
      (∀ v : SymbolTable, v.ReadsOff { declarations := ds } ↔ v = t) ∧
      collect (ds ++ es) none = .ok (t.merge u) := by
  have hcollect (ds : List Declaration) :
      collect ds none = .ok (Grammar.collected { declarations := ds }) :=
    (Grammar.collect_eq none { declarations := ds }).trans (if_pos (Grammar.fits_none _))
  refine ⟨_, _, hcollect ds, hcollect es, Grammar.readsOff_iff _, ?_⟩
  rw [hcollect, Grammar.collected_append]

end PegCheck
