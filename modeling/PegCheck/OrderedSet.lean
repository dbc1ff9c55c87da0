/-!
# Finite sets in ascending order

`OrderedSet α` is a list in strictly ascending order, so two sets with the same members are the same
value and the order in which members are shown is the order of `α`.

Headlines:
* **`OrderedSet.insert`**: puts a member in its place.
* **`OrderedSet.mem_insert`**: inserting adds the one member and no other.
-/

namespace PegCheck

/-- A finite set, kept as the ascending list of its members. -/
structure OrderedSet (α : Type) [LT α] where
  toList : List α
  ascending : toList.Pairwise (· < ·) := by simp

namespace OrderedSet

variable {α : Type} [LT α]

instance [DecidableEq α] : DecidableEq (OrderedSet α) := fun a b =>
  decidable_of_iff (a.toList = b.toList) (by cases a; cases b; simp)

instance [Repr α] : Repr (OrderedSet α) := ⟨fun s n => reprPrec s.toList n⟩

/-- The set without members. -/
def empty : OrderedSet α := ⟨[], .nil⟩

instance : EmptyCollection (OrderedSet α) := ⟨empty⟩

instance : Inhabited (OrderedSet α) := ⟨empty⟩

instance : Membership α (OrderedSet α) := ⟨fun s x => x ∈ s.toList⟩

/-- Does the set have the member? -/
def contains [BEq α] (s : OrderedSet α) (x : α) : Bool := s.toList.contains x

variable [DecidableLT α]

/-- Puts `x` before the first larger element, and nowhere if it is there already. -/
def insertList (x : α) : List α → List α
  | [] => [x]
  | y :: ys => if x < y then x :: y :: ys else if y < x then y :: insertList x ys else y :: ys

theorem mem_of_mem_insertList {x z : α} {l : List α} (h : z ∈ insertList x l) : z = x ∨ z ∈ l := by
  induction l with
  | nil => simpa [insertList] using h
  | cons y ys ih =>
    unfold insertList at h
    split at h
    · simpa using h
    · split at h
      · rcases List.mem_cons.mp h with h | h
        · exact .inr (by simp [h])
        · exact (ih h).imp id (by simp_all)
      · exact .inr h

variable [LE α] [Std.IsLinearOrder α] [Std.LawfulOrderLT α]

theorem pairwise_insertList (x : α) {l : List α} (h : l.Pairwise (· < ·)) :
    (insertList x l).Pairwise (· < ·) := by
  induction l with
  | nil => simp [insertList]
  | cons y ys ih =>
    have ⟨hy, hys⟩ := List.pairwise_cons.mp h
    unfold insertList
    split
    · rename_i hxy
      refine List.pairwise_cons.mpr ⟨fun z hz => ?_, h⟩
      rcases List.mem_cons.mp hz with rfl | hz
      · exact hxy
      · exact Std.lt_trans hxy (hy z hz)
    · split
      · rename_i hyx
        refine List.pairwise_cons.mpr ⟨fun z hz => ?_, ih hys⟩
        rcases mem_of_mem_insertList hz with rfl | hz
        · exact hyx
        · exact hy z hz
      · exact h

theorem mem_insertList {x z : α} {l : List α} : z ∈ insertList x l ↔ z = x ∨ z ∈ l := by
  refine ⟨mem_of_mem_insertList, fun h => ?_⟩
  induction l with
  | nil => simpa [insertList] using h
  | cons y ys ih =>
    unfold insertList
    split
    · simpa using h
    · split
      · rcases h with h | h
        · exact List.mem_cons_of_mem _ (ih (.inl h))
        · rcases List.mem_cons.mp h with h | h
          · simp [h]
          · exact List.mem_cons_of_mem _ (ih (.inr h))
      · rename_i h₁ h₂
        rcases h with rfl | h
        · have : z = y := Std.le_antisymm (Std.not_lt.mp h₂) (Std.not_lt.mp h₁)
          simp [this]
        · exact h

/-- Adds a member. -/
def insert (x : α) (s : OrderedSet α) : OrderedSet α :=
  ⟨insertList x s.toList, pairwise_insertList x s.ascending⟩

/-- The set of the members of a list. -/
def ofList (l : List α) : OrderedSet α := l.foldl (fun s x => s.insert x) empty

/-- **Inserting adds one member.** -/
theorem mem_insert {x z : α} {s : OrderedSet α} : z ∈ s.insert x ↔ z = x ∨ z ∈ s := mem_insertList

end OrderedSet

end PegCheck
