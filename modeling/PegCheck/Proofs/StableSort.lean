import PegCheck.Position
import Mathlib.Data.List.Nodup

/-!
# Stable sorting

The facts about `List.mergeSort` on which the order of a symbol table rests, for a comparison `le`
that is transitive and total.

* `mergeSort_eq_of_perm`: where no two entries compare equal, the order of the input leaves no
  trace.
* `pairwise_mergeSort_ties`: every entry is at most each later one, and where two compare equal they
  are in the order of the input.
* `filter_mergeSort`: entries that all compare equal to each other keep their order among
  themselves.
* `keyLe_trans`, `keyLe_total`: comparing by a position meets both conditions, and
  `mergeSort_key_eq_of_perm` is the first fact for entries at distinct positions.
* **`find?_mergeSort_eq_some_iff`**: searching a list that is sorted by a position finds the entry
  at the least position, and of several at that position the one that stands first in the input.
-/

namespace PegCheck

variable {α : Type} {le : α → α → Bool}

/-- The order of the input leaves no trace where no two entries compare equal. -/
theorem mergeSort_eq_of_perm (trans : ∀ a b c, le a b → le b c → le a c)
    (total : ∀ a b, le a b || le b a) {l m : List α} (h : l.Perm m)
    (antisymm : ∀ a ∈ l, ∀ b ∈ l, le a b → le b a → a = b) : l.mergeSort le = m.mergeSort le := by
  have hl := List.mergeSort_perm l le
  have hm := List.mergeSort_perm m le
  refine (hl.trans (h.trans hm.symm)).eq_of_pairwise (fun a b ha hb => ?_)
    (List.pairwise_mergeSort trans total l) (List.pairwise_mergeSort trans total m)
  exact antisymm a (hl.mem_iff.mp ha) b (h.mem_iff.mpr (hm.mem_iff.mp hb))

/-- In a list without repetitions, an entry does not stand both before and after another. -/
theorem not_sublist_swap {l : List α} (hl : l.Nodup) {a b : α} (h : [a, b].Sublist l) :
    ¬ [b, a].Sublist l := by
  induction l with
  | nil => nomatch h
  | cons c l ih =>
    obtain ⟨hc, hl⟩ := List.nodup_cons.mp hl
    intro h'
    cases h with
    | cons _ h =>
      cases h' with
      | cons _ h' => exact ih hl h h'
      | cons_cons _ h' => exact hc (h.subset (by simp))
    | cons_cons _ h =>
      cases h' with
      | cons _ h' => exact hc (h'.subset (by simp))
      | cons_cons _ h' => exact hc (h.subset (by simp))

/-- Of two entries of a list one stands before the other. -/
theorem sublist_or_swap {l : List α} {a b : α} (ha : a ∈ l) (hb : b ∈ l) (hab : a ≠ b) :
    [a, b].Sublist l ∨ [b, a].Sublist l := by
  induction l with
  | nil => nomatch ha
  | cons c l ih =>
    rcases List.mem_cons.mp ha with rfl | ha'
    · refine .inl (List.Sublist.cons_cons a (List.singleton_sublist.mpr ?_))
      exact (List.mem_cons.mp hb).resolve_left (Ne.symm hab)
    · rcases List.mem_cons.mp hb with rfl | hb'
      · exact .inr (List.Sublist.cons_cons b (List.singleton_sublist.mpr ha'))
      · exact (ih ha' hb').imp (List.Sublist.cons c) (List.Sublist.cons c)

/-- **Ties keep their order.** In a sorted list an entry is at most each later one, and if the two
compare equal, they are in the order of the input. -/
theorem pairwise_mergeSort_ties (trans : ∀ a b c, le a b → le b c → le a c)
    (total : ∀ a b, le a b || le b a) {R : α → α → Prop} {l : List α} (hl : l.Nodup)
    (hR : l.Pairwise R) : (l.mergeSort le).Pairwise fun a b => le a b ∧ (le b a → R a b) := by
  have hs : (l.mergeSort le).Nodup := (List.mergeSort_perm l le).nodup_iff.mpr hl
  refine List.pairwise_iff_forall_sublist.mpr fun {a b} hab => ⟨?_, fun hba => ?_⟩
  · exact List.pairwise_iff_forall_sublist.mp (List.pairwise_mergeSort trans total l) hab
  · have hmem : ∀ {x}, x ∈ [a, b] → x ∈ l := fun hx =>
      (List.mergeSort_perm l le).mem_iff.mp (hab.subset hx)
    have hne : a ≠ b := by
      rintro rfl
      exact not_sublist_swap hs hab hab
    rcases sublist_or_swap (hmem (by simp)) (hmem (by simp)) hne with h | h
    · exact List.pairwise_iff_forall_sublist.mp hR h
    -- Had `b` been first in the input, stability would have kept it first.
    · exact absurd (List.pair_sublist_mergeSort trans total hba h) (not_sublist_swap hs hab)

/-- **Sorting is stable**: entries that all compare equal to each other keep their order. -/
theorem filter_mergeSort (trans : ∀ a b c, le a b → le b c → le a c)
    (total : ∀ a b, le a b || le b a) {p : α → Bool} (hp : ∀ a b, p a = true → p b = true → le a b)
    (l : List α) : (l.mergeSort le).filter p = l.filter p := by
  have hpairwise : (l.filter p).Pairwise fun a b => le a b = true :=
    List.pairwise_filter.mpr (List.pairwise_of_forall hp)
  have hsublist : (l.filter p).Sublist (l.mergeSort le) :=
    List.sublist_mergeSort trans total hpairwise List.filter_sublist
  have hfilter := hsublist.filter p
  simp only [List.filter_filter, Bool.and_self] at hfilter
  refine (hfilter.eq_of_length ?_).symm
  exact ((List.mergeSort_perm l le).filter p).length_eq.symm

/-! ## Sorting by a position -/

section Key

variable (key : α → Position)

theorem keyLe_trans (a b c : α) (hab : decide (key a ≤ key b) = true)
    (hbc : decide (key b ≤ key c) = true) : decide (key a ≤ key c) = true := by
  rw [decide_eq_true_iff] at *
  exact Std.le_trans hab hbc

theorem keyLe_total (a b : α) : (decide (key a ≤ key b) || decide (key b ≤ key a)) = true := by
  rw [Bool.or_eq_true, decide_eq_true_iff, decide_eq_true_iff]
  exact Std.le_total

/-- Entries at distinct positions are sorted the same way from every order. -/
theorem mergeSort_key_eq_of_perm {l m : List α} (h : l.Perm m) (hl : (l.map key).Nodup) :
    (l.mergeSort fun a b => key a ≤ key b) = m.mergeSort fun a b => key a ≤ key b := by
  refine mergeSort_eq_of_perm (keyLe_trans key) (keyLe_total key) h fun a ha b hb hab hba => ?_
  rw [decide_eq_true_iff] at hab hba
  exact List.inj_on_of_nodup_map hl ha hb (Std.le_antisymm hab hba)

/-- **A sorted list is determined by its ties**: by the order of the entries at each position. -/
theorem eq_of_filter_key_eq {l m : List α} (hl : l.Pairwise fun a b => key a ≤ key b)
    (hm : m.Pairwise fun a b => key a ≤ key b)
    (h : ∀ p, l.filter (key · = p) = m.filter (key · = p)) : l = m := by
  induction l generalizing m with
  | nil =>
    refine (List.eq_nil_iff_forall_not_mem.mpr fun b hb => ?_).symm
    have hmem : b ∈ m.filter (key · = key b) := List.mem_filter.mpr ⟨hb, by simp⟩
    rw [← h] at hmem
    nomatch hmem
  | cons a l ih =>
    have hmem : ∀ b, b ∈ a :: l ↔ b ∈ m := fun b => by
      have hb := congrArg (b ∈ ·) (h (key b))
      simpa using hb
    cases m with
    | nil => exact absurd ((hmem a).mp List.mem_cons_self) List.not_mem_nil
    | cons b m =>
      obtain ⟨hal, htail⟩ := List.pairwise_cons.mp hl
      obtain ⟨hbm, hmore⟩ := List.pairwise_cons.mp hm
      -- Each head is in the other list, so neither is at a later position than the other.
      have hab : key a ≤ key b := by
        rcases List.mem_cons.mp ((hmem b).mpr List.mem_cons_self) with rfl | hb
        · exact Std.le_refl _
        · exact hal b hb
      have hba : key b ≤ key a := by
        rcases List.mem_cons.mp ((hmem a).mp List.mem_cons_self) with rfl | ha
        · exact Std.le_refl _
        · exact hbm a ha
      have hkey : key a = key b := Std.le_antisymm hab hba
      have hhead := h (key a)
      rw [List.filter_cons_of_pos (by simp), List.filter_cons_of_pos (by simp [hkey])] at hhead
      obtain ⟨rfl, -⟩ := List.cons.inj hhead
      refine congrArg (a :: ·) (ih htail hmore fun p => ?_)
      have hp := h p
      by_cases hap : key a = p
      · rw [List.filter_cons_of_pos (by simpa using hap),
          List.filter_cons_of_pos (by simpa using hap)] at hp
        exact (List.cons.inj hp).2
      · rwa [List.filter_cons_of_neg (by simpa using hap),
          List.filter_cons_of_neg (by simpa using hap)] at hp

/-- Of all entries with the property, `a` is the one at the least position, and of several at that
position the one that stands first. -/
def IsFirst (p : α → Bool) (l : List α) (a : α) : Prop :=
  ∃ before after, l = before ++ a :: after ∧ p a = true ∧
    (∀ b ∈ before, p b = true → key a < key b) ∧ ∀ b ∈ after, p b = true → key a ≤ key b

variable {key}

theorem IsFirst.mem {p : α → Bool} {l : List α} {a : α} (h : IsFirst key p l a) :
    a ∈ l ∧ p a = true := by
  obtain ⟨before, after, rfl, ha, -⟩ := h
  exact ⟨by simp, ha⟩

/-- An entry in front that comes later or lacks the property changes nothing. -/
theorem IsFirst.cons {p : α → Bool} {l : List α} {a b : α} (h : IsFirst key p l a)
    (hb : p b = true → key a < key b) : IsFirst key p (b :: l) a := by
  obtain ⟨before, after, rfl, ha, hbefore, hafter⟩ := h
  exact ⟨b :: before, after, rfl, ha, List.forall_mem_cons.mpr ⟨hb, hbefore⟩, hafter⟩

theorem IsFirst.unique {p : α → Bool} {l : List α} {a b : α} (ha : IsFirst key p l a)
    (hb : IsFirst key p l b) : a = b := by
  obtain ⟨before, after, rfl, hpa, hbefore, hafter⟩ := ha
  obtain ⟨before', after', heq, hpb, hbefore', hafter'⟩ := hb
  rcases List.append_eq_append_iff.mp heq with ⟨more, rfl, htail⟩ | ⟨more, rfl, htail⟩
  · cases more with
    | nil => exact (List.cons.inj htail).1
    | cons c more =>
      -- `a` stands before `b`, so `b` is strictly less, and `a` is at most `b`.
      obtain ⟨rfl, rfl⟩ := List.cons.inj htail
      have hlt : key b < key a := hbefore' a (by simp) hpa
      have hle : key a ≤ key b := hafter b (by simp) hpb
      exact absurd hlt (Std.not_lt.mpr hle)
  · cases more with
    | nil => exact (List.cons.inj htail).1.symm
    | cons c more =>
      obtain ⟨rfl, rfl⟩ := List.cons.inj htail
      have hlt : key a < key b := hbefore b (by simp) hpb
      have hle : key b ≤ key a := hafter' a (by simp) hpa
      exact absurd hlt (Std.not_lt.mpr hle)

theorem isFirst_of_find?_mergeSort {p : α → Bool} {l : List α} {a : α}
    (h : (l.mergeSort fun a b => key a ≤ key b).find? p = some a) : IsFirst key p l a := by
  induction l with
  | nil => simp at h
  | cons b l ih =>
    -- Sorting puts `b` before the first entry that is not less.
    obtain ⟨less, more, hcons, hsorted, hless⟩ :=
      List.mergeSort_cons (keyLe_trans key) (keyLe_total key) b l
    have hpairwise := List.pairwise_mergeSort (keyLe_trans key) (keyLe_total key) (b :: l)
    have hmem : ∀ c ∈ l, c ∈ less ++ more := fun c hc =>
      hsorted ▸ (List.mergeSort_perm l _).mem_iff.mpr hc
    rw [hsorted, List.find?_append] at ih
    rw [hcons, List.find?_append] at h
    rw [hcons] at hpairwise
    cases hfind : less.find? p with
    | some c =>
      rw [hfind, Option.some_or] at h ih
      obtain rfl := Option.some.inj h
      have hlt : key c < key b := by
        have hc := hless c (List.mem_of_find?_eq_some hfind)
        exact Std.not_le.mp (by simpa using hc)
      exact (ih rfl).cons fun _ => hlt
    | none =>
      rw [hfind, Option.none_or] at h ih
      by_cases hb : p b = true
      · rw [List.find?_cons_of_pos hb] at h
        obtain rfl := Option.some.inj h
        refine ⟨[], l, rfl, hb, by simp, fun c hc hpc => ?_⟩
        have hmore : c ∈ more :=
          (List.mem_append.mp (hmem c hc)).resolve_left fun hcless =>
            List.find?_eq_none.mp hfind c hcless hpc
        have hbmore := (List.pairwise_append.mp hpairwise).2.1
        exact of_decide_eq_true ((List.pairwise_cons.mp hbmore).1 c hmore)
      · rw [List.find?_cons_of_neg hb] at h
        exact (ih h).cons fun hpb => absurd hpb hb

/-- **Searching a sorted list** finds the entry at the least position, and of several at that
position the one that stands first in the input. -/
theorem find?_mergeSort_eq_some_iff {p : α → Bool} {l : List α} {a : α} :
    (l.mergeSort fun a b => key a ≤ key b).find? p = some a ↔ IsFirst key p l a := by
  refine ⟨isFirst_of_find?_mergeSort, fun ha => ?_⟩
  cases hfind : (l.mergeSort fun a b => key a ≤ key b).find? p with
  | none =>
    have hsorted := (List.mergeSort_perm l fun a b => key a ≤ key b).mem_iff.mpr ha.mem.1
    exact absurd ha.mem.2 (List.find?_eq_none.mp hfind a hsorted)
  | some b => rw [(isFirst_of_find?_mergeSort hfind).unique ha]

end Key

end PegCheck
