import PegCheck.Proofs.Grammar.References
import PegCheck.SymbolTable.Normalize

/-!
# What putting a table in order does

Sorting a table is described by what it keeps and by the order it makes: of the rules by their
position, of the occurrences of each name, and of the names by their first occurrence. Where two
rules share their position, or two names their first occurrence, the order of before decides. This
says all there is to say of the sorted table.

* `SymbolTable.Arranges`: one table is another in order.
* `SymbolTable.arranges_normalize`: sorting puts a table in order.
* `SymbolTable.Arranges.references_eq`: groups at one first occurrence are told apart by the order
  of their names before, so two tables in order have the same groups in the same order.
* **`SymbolTable.arranges_iff`**: the table in order is the sorted one and no other.
-/

namespace PegCheck

namespace SymbolTable

/-- The table `u` has the contents of the table `t` in order. -/
structure Arranges (t u : SymbolTable) : Prop where
  rules_perm : u.rules.Perm t.rules
  rules_ascending : u.rules.Pairwise fun a b => a.index ≤ b.index
  /-- Rules at the same position are in the order of before. -/
  rules_ties : ∀ p, u.rules.filter (·.index = p) = t.rules.filter (·.index = p)
  names_perm : (u.references.map (·.name)).Perm (t.references.map (·.name))
  occurrences_perm : ∀ g ∈ u.references,
    ∃ h ∈ t.references, h.name = g.name ∧ g.occurrences.Perm h.occurrences
  occurrences_ascending : ∀ g ∈ u.references, g.occurrences.Pairwise (· ≤ ·)
  /-- A group without occurrences comes before all that have some. -/
  groups_ascending : u.references.Pairwise fun a b =>
    ∀ p ∈ a.occurrences.head?, ∃ q ∈ b.occurrences.head?, p ≤ q
  /-- Groups with the same first occurrence, or none, are in the order of before. -/
  groups_ties : ∀ first,
    ((u.references.filter (·.occurrences.head? = first)).map (·.name)).Sublist
      (t.references.map (·.name))
  combinators_eq : u.combinators = t.combinators

theorem firstLe_iff {a b : Option Position} :
    firstLe a b = true ↔ ∀ p ∈ a, ∃ q ∈ b, p ≤ q := by
  cases a with
  | none => simp [firstLe]
  | some p => cases b <;> simp [firstLe]

/-! ## The sorted table is in order -/

section Normalize

variable (t : SymbolTable)

theorem groups_normalize_perm :
    t.normalize.references.Perm (t.references.map ReferenceGroup.normalize) := List.mergeSort_perm _ _

theorem names_normalize :
    (t.references.map ReferenceGroup.normalize).map (·.name) = t.references.map (·.name) := by
  rw [List.map_map]
  rfl

/-- **Sorting puts a table in order.** -/
theorem arranges_normalize : t.Arranges t.normalize where
  rules_perm := List.mergeSort_perm _ _
  rules_ascending :=
    (List.pairwise_mergeSort (keyLe_trans Rule.index) (keyLe_total Rule.index) t.rules).imp
      of_decide_eq_true
  rules_ties p := by
    refine filter_mergeSort (keyLe_trans Rule.index) (keyLe_total Rule.index) (fun a b ha hb => ?_) _
    rw [decide_eq_true_iff] at ha hb ⊢
    rw [ha, hb]
    exact Std.le_refl p
  names_perm := by
    rw [← t.names_normalize]
    exact t.groups_normalize_perm.map _
  occurrences_perm g hg := by
    obtain ⟨h, hh, rfl⟩ := List.mem_map.mp (t.groups_normalize_perm.mem_iff.mp hg)
    exact ⟨h, hh, rfl, List.mergeSort_perm _ _⟩
  occurrences_ascending g hg := by
    obtain ⟨h, -, rfl⟩ := List.mem_map.mp (t.groups_normalize_perm.mem_iff.mp hg)
    exact (List.pairwise_mergeSort (keyLe_trans id) (keyLe_total id) h.occurrences).imp
      of_decide_eq_true
  groups_ascending :=
    (List.pairwise_mergeSort firstLe_groups_trans firstLe_groups_total _).imp firstLe_iff.mp
  groups_ties first := by
    have hties : t.normalize.references.filter (·.occurrences.head? = first) =
        (t.references.map ReferenceGroup.normalize).filter (·.occurrences.head? = first) := by
      refine filter_mergeSort firstLe_groups_trans firstLe_groups_total (fun a b ha hb => ?_) _
      rw [decide_eq_true_iff] at ha hb
      rw [ha, hb, firstLe_iff]
      exact fun p hp => ⟨p, hp, Std.le_refl p⟩
    rw [hties, ← t.names_normalize]
    exact List.filter_sublist.map _
  combinators_eq := rfl

end Normalize

/-! ## There is only one table in order -/

namespace Arranges

variable {t u v : SymbolTable}

theorem nodup_names (hu : t.Arranges u) (hnames : (t.references.map (·.name)).Nodup) :
    (u.references.map (·.name)).Nodup := hu.names_perm.nodup_iff.mpr hnames

theorem rules_eq (hu : t.Arranges u) (hv : t.Arranges v) : u.rules = v.rules :=
  eq_of_filter_key_eq Rule.index hu.rules_ascending hv.rules_ascending fun p =>
    (hu.rules_ties p).trans (hv.rules_ties p).symm

/-- A name has the same occurrences in the same order in both tables. -/
theorem group_eq (hu : t.Arranges u) (hv : t.Arranges v)
    (hnames : (t.references.map (·.name)).Nodup) {g h : ReferenceGroup} (hg : g ∈ u.references)
    (hh : h ∈ v.references) (hname : g.name = h.name) : g = h := by
  obtain ⟨g', hg', hgname, hgperm⟩ := hu.occurrences_perm g hg
  obtain ⟨h', hh', hhname, hhperm⟩ := hv.occurrences_perm h hh
  obtain rfl : g' = h' :=
    List.inj_on_of_nodup_map hnames hg' hh' (hgname.trans (hname.trans hhname.symm))
  have hoccurrences : g.occurrences = h.occurrences :=
    (hgperm.trans hhperm.symm).eq_of_pairwise (fun _ _ _ _ => Std.le_antisymm)
      (hu.occurrences_ascending g hg) (hv.occurrences_ascending h hh)
  cases g
  cases h
  exact congrArg₂ ReferenceGroup.mk hname hoccurrences

theorem mem_of_mem (hu : t.Arranges u) (hv : t.Arranges v)
    (hnames : (t.references.map (·.name)).Nodup) {g : ReferenceGroup} (hg : g ∈ u.references) :
    g ∈ v.references := by
  have hname : g.name ∈ v.references.map (·.name) :=
    (hu.names_perm.trans hv.names_perm.symm).mem_iff.mp (List.mem_map_of_mem hg)
  obtain ⟨h, hh, hhg⟩ := List.mem_map.mp hname
  exact hu.group_eq hv hnames hg hh hhg.symm ▸ hh

theorem groups_perm (hu : t.Arranges u) (hv : t.Arranges v)
    (hnames : (t.references.map (·.name)).Nodup) : u.references.Perm v.references :=
  (List.perm_ext_iff_of_nodup (hu.nodup_names hnames).of_map (hv.nodup_names hnames).of_map).mpr
    fun _ => ⟨hu.mem_of_mem hv hnames, hv.mem_of_mem hu hnames⟩

/-- A group comes before another by its first occurrence, and by its name if they share that. -/
theorem groups_pairwise (hu : t.Arranges u) :
    u.references.Pairwise fun a b =>
      firstLe a.occurrences.head? b.occurrences.head? = true ∧
        (a.occurrences.head? = b.occurrences.head? →
          [a.name, b.name].Sublist (t.references.map (·.name))) := by
  refine List.pairwise_iff_forall_sublist.mpr fun {a b} hab => ⟨?_, fun htie => ?_⟩
  · exact firstLe_iff.mpr (List.pairwise_iff_forall_sublist.mp hu.groups_ascending hab)
  · have hfilter := hab.filter (·.occurrences.head? = b.occurrences.head?)
    rw [List.filter_cons_of_pos (by simpa using htie), List.filter_cons_of_pos (by simp),
      List.filter_nil] at hfilter
    exact (hfilter.map _).trans (hu.groups_ties _)

/-- Groups at one first occurrence are in the order that their names had before. -/
theorem references_eq (hu : t.Arranges u) (hv : t.Arranges v)
    (hnames : (t.references.map (·.name)).Nodup) : u.references = v.references := by
  refine (hu.groups_perm hv hnames).eq_of_pairwise (fun a b _ _ hab hba => ?_) hu.groups_pairwise
    hv.groups_pairwise
  have htie := References.firstLe_antisymm hab.1 hba.1
  exact absurd (hba.2 htie.symm) (not_sublist_swap hnames (hab.2 htie))

end Arranges

/-- **Putting a table in order** is what sorting does, and there is no other way to do it. -/
theorem arranges_iff {t : SymbolTable} (hnames : (t.references.map (·.name)).Nodup)
    (u : SymbolTable) : t.Arranges u ↔ u = t.normalize := by
  constructor
  · intro hu
    have ht := t.arranges_normalize
    have hrules := hu.rules_eq ht
    have hreferences := hu.references_eq ht hnames
    have hcombinators := hu.combinators_eq.trans ht.combinators_eq.symm
    cases u
    exact congr (congrArg₂ SymbolTable.mk hrules hreferences) hcombinators
  · rintro rfl
    exact t.arranges_normalize

/-- Two rules share their position, two names their first occurrence, and two have no occurrence. -/
def disorderedTable : SymbolTable where
  rules := [⟨"b", ⟨3, 1⟩, none⟩, ⟨"a", ⟨2, 1⟩, none⟩, ⟨"b", ⟨2, 1⟩, some (.passThrough ⟨2, 9⟩)⟩]
  references := [⟨"z", [⟨4, 1⟩, ⟨2, 5⟩, ⟨2, 5⟩]⟩, ⟨"n", []⟩, ⟨"y", [⟨2, 5⟩]⟩, ⟨"m", []⟩]
  combinators := .ofList [.sequence]

theorem arranges_iff_sample :
    (disorderedTable.references.map (·.name)).Nodup ∧
      disorderedTable.Arranges disorderedTable.normalize ∧
      disorderedTable.normalize.references =
        [⟨"n", []⟩, ⟨"m", []⟩, ⟨"z", [⟨2, 5⟩, ⟨2, 5⟩, ⟨4, 1⟩]⟩, ⟨"y", [⟨2, 5⟩]⟩] := by
  have hnames : (disorderedTable.references.map (·.name)).Nodup := by decide
  have hreferences : disorderedTable.normalize.references =
      [⟨"n", []⟩, ⟨"m", []⟩, ⟨"z", [⟨2, 5⟩, ⟨2, 5⟩, ⟨4, 1⟩]⟩, ⟨"y", [⟨2, 5⟩]⟩] := by
    simp [disorderedTable, normalize, ReferenceGroup.normalize, List.mergeSort, List.merge,
      List.MergeSort.Internal.splitInTwo, firstLe, Position.le_iff]
  exact ⟨hnames, (arranges_iff hnames _).mpr rfl, hreferences⟩

end SymbolTable

end PegCheck
