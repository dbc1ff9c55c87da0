import PegCheck.Proofs.Grammar.Nodes
import PegCheck.Proofs.StableSort
import PegCheck.SymbolTable.Normalize
import Mathlib.Data.List.Induction

/-!
# The references of a grammar, name by name

A list of references, in the order in which a reader of the tree meets them, is looked at through
its names: which names occur and in which order they are first met, where each name occurs, and
which of two names comes first in the text.

* `References.names`: the names in the order of their first encounter, each once.
* `References.positions`: where a name stands, in the order of the encounter and with multiplicity;
  `References.occurrences`: the same positions in ascending order.
* `References.ordered`: the names by their smallest occurrence.
* **`ordered_pairwise`**: what that order is. A name never comes before one with a smaller smallest
  occurrence, and where the smallest occurrences agree, the name met first comes first.
* `ordered_eq_of_perm`: where no two references share a position, the order in which they are met
  leaves no trace.
-/

namespace PegCheck

namespace References

/-- The names that are referenced, each once, in the order of their first encounter. -/
def names (rs : References) : List String := (rs.map (·.name)).eraseDups

/-- The positions of a name in the order of the encounter. -/
def positions (rs : References) (name : String) : List Position :=
  (rs.filter fun r => r.name == name).map (·.index)

/-- The positions of a name in ascending order, as often as they occur. -/
def occurrences (rs : References) (name : String) : List Position :=
  (rs.positions name).mergeSort fun p q => p ≤ q

/-- The smallest position of a name, if it occurs. -/
def first? (rs : References) (name : String) : Option Position := (rs.occurrences name).head?

/-- The names by their smallest position; names that share it stay in the order of encounter. -/
def ordered (rs : References) : List String :=
  rs.names.mergeSort fun m n => firstLe (rs.first? m) (rs.first? n)

/-! ## Names and their positions -/

theorem mem_names {rs : References} {name : String} : name ∈ rs.names ↔ ∃ r ∈ rs, r.name = name := by
  rw [names, List.mem_eraseDups, List.mem_map]

theorem names_concat (rs : References) (r : Reference) :
    names (rs ++ [r]) = if r.name ∈ rs.names then rs.names else rs.names ++ [r.name] := by
  have hmem : r.name ∈ rs.names ↔ (rs.map (·.name)).contains r.name = true := by
    rw [names, List.mem_eraseDups, List.contains_iff_mem]
  have hsplit : names (rs ++ [r]) = rs.names ++ ([r.name].removeAll (rs.map (·.name))).eraseDups := by
    rw [names, List.map_append, List.eraseDups_append]
    rfl
  rw [hsplit, List.cons_removeAll, List.nil_removeAll]
  by_cases h : r.name ∈ rs.names
  · rw [if_pos h, if_neg (by rw [hmem.mp h]; exact nofun), List.eraseDups_nil, List.append_nil]
  · rw [if_neg h, if_pos (by simpa using mt hmem.mpr h), List.eraseDups_cons, List.filter_nil,
      List.eraseDups_nil]

theorem nodup_names (rs : References) : rs.names.Nodup := by
  induction rs using List.reverseRecOn with
  | nil => exact List.nodup_nil
  | append_singleton rs r ih =>
    rw [names_concat]
    split
    · exact ih
    · rename_i h
      exact List.nodup_append.mpr ⟨ih, List.pairwise_singleton _ _, fun a ha b hb hab =>
        h (by rwa [← List.mem_singleton.mp hb, ← hab])⟩

/-- The names are in the order of their first encounter. -/
theorem names_pairwise (rs : References) :
    rs.names.Pairwise fun m n => (rs.map (·.name)).idxOf m < (rs.map (·.name)).idxOf n := by
  have hmem : ∀ {rs : References} {n}, n ∈ rs.names → n ∈ rs.map (·.name) := List.mem_eraseDups.mp
  induction rs using List.reverseRecOn with
  | nil => exact .nil
  | append_singleton rs r ih =>
    -- What was met before keeps its place; a new name is met after all of it.
    have hold : (names rs).Pairwise fun m n =>
        ((rs ++ [r]).map (·.name)).idxOf m < ((rs ++ [r]).map (·.name)).idxOf n := by
      refine ih.imp_of_mem fun {m n} hm hn hlt => ?_
      rw [List.map_append, List.idxOf_append, List.idxOf_append, if_pos (hmem hm), if_pos (hmem hn)]
      exact hlt
    rw [names_concat]
    split
    · exact hold
    · rename_i h
      refine List.pairwise_append.mpr ⟨hold, List.pairwise_singleton _ _, fun m hm n hn => ?_⟩
      have hn' : n ∉ rs.map (·.name) := by
        rw [List.mem_singleton.mp hn]
        exact fun h' => h (List.mem_eraseDups.mpr h')
      rw [List.map_append, List.idxOf_append, List.idxOf_append, if_pos (hmem hm), if_neg hn']
      exact Nat.lt_of_lt_of_le (List.idxOf_lt_length_of_mem (hmem hm)) (Nat.le_add_left _ _)

theorem positions_concat (rs : References) (r : Reference) (name : String) :
    positions (rs ++ [r]) name =
      if r.name = name then rs.positions name ++ [r.index] else rs.positions name := by
  unfold positions
  rw [List.filter_append, List.map_append]
  by_cases h : r.name = name
  · rw [if_pos h, List.filter_cons_of_pos (by simpa using h)]
    rfl
  · rw [if_neg h, List.filter_cons_of_neg (by simpa using h), List.filter_nil, List.map_nil,
      List.append_nil]

theorem mem_positions {rs : References} {name : String} {p : Position} :
    p ∈ rs.positions name ↔ ⟨name, p⟩ ∈ rs := by
  simp only [positions, List.mem_map, List.mem_filter, beq_iff_eq]
  constructor
  · rintro ⟨⟨_, _⟩, ⟨hr, rfl⟩, rfl⟩
    exact hr
  · exact fun h => ⟨⟨name, p⟩, ⟨h, rfl⟩, rfl⟩

theorem positions_eq_nil {rs : References} {name : String} (h : name ∉ rs.names) :
    rs.positions name = [] := by
  refine List.eq_nil_iff_forall_not_mem.mpr fun p hp => h ?_
  exact mem_names.mpr ⟨_, mem_positions.mp hp, rfl⟩

/-! ## Names by their smallest occurrence -/

theorem occurrences_perm (rs : References) (name : String) :
    (rs.occurrences name).Perm (rs.positions name) := List.mergeSort_perm _ _

theorem mem_occurrences {rs : References} {name : String} {p : Position} :
    p ∈ rs.occurrences name ↔ ⟨name, p⟩ ∈ rs :=
  (rs.occurrences_perm name).mem_iff.trans mem_positions

/-- A name that is referenced has a smallest position, and there it is referenced. -/
theorem exists_first? {rs : References} {name : String} (h : name ∈ rs.names) :
    ∃ p, rs.first? name = some p ∧ ⟨name, p⟩ ∈ rs := by
  obtain ⟨⟨_, q⟩, hq, rfl⟩ := mem_names.mp h
  have hne : rs.occurrences _ ≠ [] := List.ne_nil_of_mem (mem_occurrences.mpr hq)
  obtain ⟨p, ps, hp⟩ := List.exists_cons_of_ne_nil hne
  exact ⟨p, by rw [first?, hp]; rfl, mem_occurrences.mp (by rw [hp]; exact List.mem_cons_self)⟩

theorem firstLe_trans (a b c : Option Position) (hab : firstLe a b = true)
    (hbc : firstLe b c = true) : firstLe a c = true := by
  cases a with
  | none => rfl
  | some a =>
    cases b with
    | none => nomatch hab
    | some b =>
      cases c with
      | none => nomatch hbc
      | some c => exact keyLe_trans id a b c hab hbc

theorem firstLe_total (a b : Option Position) : (firstLe a b || firstLe b a) = true := by
  cases a with
  | none => rfl
  | some a =>
    cases b with
    | none => rfl
    | some b => exact keyLe_total id a b

theorem firstLe_antisymm {a b : Option Position} (hab : firstLe a b = true)
    (hba : firstLe b a = true) : a = b := by
  cases a with
  | none =>
    cases b with
    | none => rfl
    | some b => nomatch hba
  | some a =>
    cases b with
    | none => nomatch hab
    | some b =>
      exact congrArg some (Std.le_antisymm (of_decide_eq_true hab) (of_decide_eq_true hba))

theorem ordered_perm (rs : References) : rs.ordered.Perm rs.names := List.mergeSort_perm _ _

theorem mem_ordered {rs : References} {name : String} :
    name ∈ rs.ordered ↔ ∃ r ∈ rs, r.name = name := rs.ordered_perm.mem_iff.trans mem_names

theorem nodup_ordered (rs : References) : rs.ordered.Nodup :=
  rs.ordered_perm.nodup_iff.mpr rs.nodup_names

/-- A name comes before another: its smallest position is at most that of the other, and if the two
share it, the name is met first. -/
def Before (rs : References) (m n : String) : Prop :=
  firstLe (rs.first? m) (rs.first? n) ∧
    (firstLe (rs.first? n) (rs.first? m) →
      (rs.map (·.name)).idxOf m < (rs.map (·.name)).idxOf n)

/-- **The order of the names.** -/
theorem ordered_pairwise (rs : References) : rs.ordered.Pairwise rs.Before :=
  pairwise_mergeSort_ties (fun l m n => firstLe_trans (rs.first? l) (rs.first? m) (rs.first? n))
    (fun m n => firstLe_total (rs.first? m) (rs.first? n)) rs.nodup_names rs.names_pairwise

/-! ## References in another order -/

section Perm

variable {rs ss : References} (h : List.Perm rs ss)

include h

theorem occurrences_eq_of_perm (name : String) : rs.occurrences name = ss.occurrences name := by
  have hpos : (rs.positions name).Perm (ss.positions name) := (h.filter _).map _
  refine mergeSort_eq_of_perm (keyLe_trans id) (keyLe_total id) hpos fun p _ q _ hpq hqp => ?_
  exact Std.le_antisymm (of_decide_eq_true hpq) (of_decide_eq_true hqp)

theorem names_perm_of_perm : rs.names.Perm ss.names := by
  refine (List.perm_ext_iff_of_nodup rs.nodup_names ss.nodup_names).mpr fun name => ?_
  rw [names, names, List.mem_eraseDups, List.mem_eraseDups]
  exact (h.map _).mem_iff

/-- **References at distinct positions** have their names in the same order, however they come. -/
theorem ordered_eq_of_perm (hpos : (rs.map (·.index)).Nodup) : rs.ordered = ss.ordered := by
  have hfirst : ∀ name, rs.first? name = ss.first? name := fun name => by
    rw [first?, first?, occurrences_eq_of_perm h]
  unfold ordered
  simp only [← hfirst]
  refine mergeSort_eq_of_perm (fun l m n => firstLe_trans (rs.first? l) (rs.first? m) (rs.first? n))
    (fun m n => firstLe_total (rs.first? m) (rs.first? n)) (names_perm_of_perm h)
    fun m hm n hn hmn hnm => ?_
  -- Two names with one smallest position would be two references at that position.
  obtain ⟨p, hp, hmp⟩ := exists_first? hm
  obtain ⟨q, hq, hnq⟩ := exists_first? hn
  have hpq : p = q := Option.some.inj (hp.symm.trans ((firstLe_antisymm hmn hnm).trans hq))
  exact congrArg Reference.name (List.inj_on_of_nodup_map hpos hmp hnq hpq)

end Perm

end References

/-! ## Groups by their first occurrence -/

namespace SymbolTable

theorem firstLe_groups_trans (a b c : ReferenceGroup) :
    firstLe a.occurrences.head? b.occurrences.head? = true →
      firstLe b.occurrences.head? c.occurrences.head? = true →
      firstLe a.occurrences.head? c.occurrences.head? = true := References.firstLe_trans _ _ _

theorem firstLe_groups_total (a b : ReferenceGroup) :
    (firstLe a.occurrences.head? b.occurrences.head? ||
      firstLe b.occurrences.head? a.occurrences.head?) = true := References.firstLe_total _ _

end SymbolTable

end PegCheck
