import PegCheck.OrderedSet

/-!
# Ordered sets are determined by their members

A strictly ascending list is determined by its members, so two ordered sets are compared member by
member, and the order in which members were put in leaves no trace.

Results:
* **`OrderedSet.ext`**: sets with the same members are the same set.
* `OrderedSet.mem_foldl_insert`, `OrderedSet.mem_ofList`: the members after many insertions.
* `OrderedSet.ofList_toList`: a set is the set of its members.
* `OrderedSet.foldl_insert_insert`: one more insertion may come before or after the others.
* `OrderedSet.mem_filter`: the members that pass a test.
-/

namespace PegCheck

namespace OrderedSet

variable {α : Type} [LT α]

theorem mem_def {x : α} {s : OrderedSet α} : x ∈ s ↔ x ∈ s.toList := Iff.rfl

theorem contains_iff [BEq α] [LawfulBEq α] {x : α} {s : OrderedSet α} :
    s.contains x = true ↔ x ∈ s := by
  rw [contains, List.contains_iff_mem, mem_def]

/-- The members of `s` that pass the test `p`. -/
def filter (p : α → Bool) (s : OrderedSet α) : OrderedSet α :=
  ⟨s.toList.filter p, s.ascending.filter p⟩

theorem mem_filter {p : α → Bool} {x : α} {s : OrderedSet α} :
    x ∈ s.filter p ↔ x ∈ s ∧ p x = true := List.mem_filter

variable [LE α] [Std.LawfulOrderLT α]

theorem nodup (s : OrderedSet α) : s.toList.Nodup :=
  s.ascending.imp fun {a b} hlt (heq : a = b) => Std.lt_irrefl (heq ▸ hlt : b < b)

variable [Std.IsLinearOrder α]

/-- **Sets with the same members are the same set.** -/
theorem ext {s t : OrderedSet α} (h : ∀ x, x ∈ s ↔ x ∈ t) : s = t := by
  have perm : s.toList.Perm t.toList := (List.perm_ext_iff_of_nodup s.nodup t.nodup).mpr h
  have hl : s.toList = t.toList :=
    perm.eq_of_pairwise (fun a b _ _ hab hba => absurd (Std.lt_trans hab hba) Std.lt_irrefl)
      s.ascending t.ascending
  cases s
  cases t
  cases hl
  rfl

variable [DecidableLT α]

theorem mem_foldl_insert {x : α} (l : List α) (s : OrderedSet α) :
    x ∈ l.foldl (fun s y => s.insert y) s ↔ x ∈ l ∨ x ∈ s := by
  induction l generalizing s with
  | nil => simp
  | cons y ys ih =>
    rw [List.foldl_cons, ih, mem_insert, List.mem_cons]
    exact ⟨fun h => h.elim (fun h => .inl (.inr h)) fun h => h.imp .inl id,
      fun h => h.elim (fun h => h.elim (fun h => .inr (.inl h)) .inl) fun h => .inr (.inr h)⟩

theorem mem_ofList {x : α} (l : List α) : x ∈ ofList l ↔ x ∈ l := by
  rw [ofList, mem_foldl_insert]
  exact ⟨fun h => h.resolve_right List.not_mem_nil, .inl⟩

/-- One more insertion may come before or after the others. -/
theorem foldl_insert_insert (x : α) (l : List α) (s : OrderedSet α) :
    l.foldl (fun s y => s.insert y) (s.insert x) = (l.foldl (fun s y => s.insert y) s).insert x := by
  refine ext fun z => ?_
  rw [mem_foldl_insert, mem_insert, mem_insert, mem_foldl_insert]
  exact or_left_comm

/-- Lists with the same members give the same set. -/
theorem ofList_congr {l m : List α} (h : ∀ x, x ∈ l ↔ x ∈ m) : ofList l = ofList m :=
  ext fun x => by rw [mem_ofList, mem_ofList, h]

/-- A set is the set of its members. -/
theorem ofList_toList (s : OrderedSet α) : ofList s.toList = s :=
  ext fun _ => mem_ofList s.toList

end OrderedSet

end PegCheck
