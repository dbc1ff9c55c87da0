import PegCheck.Host.Front
import PegCheck.Proofs.Host.Tokens

/-!
# Weights of trees

A weight says how much each leaf of a tree counts and whether what is inside groups counts at all.
The places of trees and the spacing of their marks count for nothing, and neither does what readers
write of their own accord: an underscore, some marks, and the indices of fields. So a bound that
holds for every weight says of trees that nothing else is among them that was not there before.

* `Weight`, `Weight.trees`: weights and what they give for a list of trees.
* `trees_perm`: the order of trees plays no part.
* `Counts.trees`: a weight that looks into groups counts tokens.
* **`trees_read`**: what the trees of a source weigh is read off its pieces.
* `semicolons`, `quotedSemicolons`, `strange`: what is counted by weights.
-/

namespace PegCheck.Host

/-- How much is counted for the leaves and the delimiters of trees, and whether the content of
groups counts. -/
structure Weight where
  ident : String → Nat
  punct : Char → Nat
  literal : String → Nat
  group : Delimiter → Nat
  deep : Bool
  underscore : ident "_" = 0
  supplied : ∀ c ∈ [':', ',', '.', '='], punct c = 0
  index : ∀ n : Nat, literal (toString n) = 0

namespace Weight

variable (μ : Weight)

mutual

/-- What a tree weighs. -/
def tree : Tree → Nat
  | .ident text _ => μ.ident text
  | .punct c _ _ => μ.punct c
  | .literal text _ => μ.literal text
  | .group d content _ _ => μ.group d + if μ.deep then trees content else 0

/-- What a list of trees weighs. -/
def trees : List Tree → Nat
  | [] => 0
  | t :: ts => tree t + trees ts

end

@[simp] theorem trees_nil : μ.trees [] = 0 := rfl

@[simp] theorem trees_cons (t : Tree) (ts : List Tree) :
    μ.trees (t :: ts) = μ.tree t + μ.trees ts := rfl

@[simp] theorem trees_append (ts us : List Tree) :
    μ.trees (ts ++ us) = μ.trees ts + μ.trees us := by
  induction ts with
  | nil => rw [List.nil_append, trees_nil, Nat.zero_add]
  | cons t ts ih => rw [List.cons_append, trees_cons, trees_cons, ih, Nat.add_assoc]

theorem tree_ident (text : String) (place : Place) : μ.tree (.ident text place) = μ.ident text :=
  rfl

theorem tree_punct (c : Char) (joint : Bool) (place : Place) :
    μ.tree (.punct c joint place) = μ.punct c := rfl

theorem tree_literal (text : String) (place : Place) :
    μ.tree (.literal text place) = μ.literal text := rfl

theorem tree_group (d : Delimiter) (content : List Tree) (opened closed : Place) :
    μ.tree (.group d content opened closed) =
      μ.group d + if μ.deep then μ.trees content else 0 := rfl

/-- A group with less in it weighs less. -/
theorem tree_group_le (d : Delimiter) {content content' : List Tree}
    (opened closed opened' closed' : Place) (h : μ.trees content ≤ μ.trees content') :
    μ.tree (.group d content opened closed) ≤ μ.tree (.group d content' opened' closed') := by
  rw [tree_group, tree_group]
  split
  · exact Nat.add_le_add_left h _
  · exact Nat.le_refl _

/-- **The order of trees plays no part.** -/
theorem trees_perm {ts us : List Tree} (h : ts.Perm us) : μ.trees ts = μ.trees us := by
  induction h with
  | nil => rfl
  | cons t _ ih => rw [trees_cons, trees_cons, ih]
  | swap t u ts => simp only [trees_cons, Nat.add_left_comm]
  | trans _ _ ih ih' => exact ih.trans ih'

theorem trees_reverse (ts : List Tree) : μ.trees ts.reverse = μ.trees ts :=
  μ.trees_perm ts.reverse_perm

/-! ## Tokens -/

/-- The count of a token is the weight of the leaf that it is; delimiters do not count. -/
structure Counts (count : HostToken → Nat) : Prop where
  deep : μ.deep = true
  group : ∀ d, μ.group d = 0
  ident : ∀ text position, count ⟨.ident, text, position⟩ = μ.ident text
  punct : ∀ c position, count ⟨.punct, String.singleton c, position⟩ = μ.punct c
  literal : ∀ text position, count ⟨.literal, text, position⟩ = μ.literal text
  delimiter : ∀ text position, count ⟨.delimiter, text, position⟩ = 0

section Tokens

variable {μ} {count : HostToken → Nat}

mutual

theorem Counts.tree (h : μ.Counts count) (start : Position) :
    (t : Tree) → ((t.flatten start).map count).sum = μ.tree t
  | .ident text place => by simp [tree_ident, Tree.flatten, h.ident]
  | .punct c joint place => by simp [tree_punct, Tree.flatten, h.punct]
  | .literal text place => by simp [tree_literal, Tree.flatten, h.literal]
  | .group d content opened closed => by
    rw [tree_group, if_pos h.deep, h.group, ← h.trees start content, Tree.flatten_group]
    cases d <;>
      simp [Delimiter.openingTokens, Delimiter.closingTokens, Delimiter.marks?, h.delimiter]

/-- **Counting tokens**: a weight that looks into groups is a count of tokens. -/
theorem Counts.trees (h : μ.Counts count) (start : Position) :
    (ts : List Tree) → ((Tree.flattenAll start ts).map count).sum = μ.trees ts
  | [] => rfl
  | t :: ts => by
    rw [trees_cons, ← h.tree start t, ← h.trees start ts, Tree.flattenAll, List.map_append,
      List.sum_append]

end

end Tokens

/-! ## Sources -/

/-- What a piece of a source weighs; a group weighs where it opens. -/
def piece (p : Piece) : Nat :=
  match p.kind with
  | .opening d => μ.group d
  | .closing _ => 0
  | _ => μ.trees (Tree.ofPiece p)

/-- What is before the innermost of the open groups weighs, with these groups. -/
def frames : List Tree.Frame → Nat
  | [] => 0
  | f :: fs => frames fs + (μ.trees f.before + μ.group f.delimiter)

theorem trees_nest (hdeep : μ.deep = true) {fs : List Tree.Frame} {done ts : List Tree}
    {fault : Option Place} {ps : List Piece} (h : Tree.nest fs done fault ps = .ok ts) :
    μ.trees ts = μ.frames fs + μ.trees done + (ps.map μ.piece).sum := by
  induction ps generalizing fs done with
  | nil =>
    unfold Tree.nest at h
    split at h
    · cases h
    · cases h
      rw [trees_reverse, frames, List.map_nil, List.sum_nil, Nat.zero_add, Nat.add_zero]
    · cases h
  | cons p ps ih =>
    unfold Tree.nest at h
    rw [List.map_cons, List.sum_cons]
    split at h
    · rename_i d hkind
      have hpiece : μ.piece p = μ.group d := by rw [piece, hkind]
      rw [ih h, hpiece, frames, trees_nil]
      dsimp only
      omega
    · rename_i d hkind
      have hpiece : μ.piece p = 0 := by rw [piece, hkind]
      split at h
      · cases h
      · rename_i f fs
        split at h
        · rw [ih h, hpiece, frames, trees_cons, tree_group, if_pos hdeep, trees_reverse,
            ‹f.delimiter = d›]
          omega
        · cases h
    · rename_i hopening hclosing
      have hpiece : μ.piece p = μ.trees (Tree.ofPiece p) := by
        unfold piece
        split
        · exact absurd ‹_› (hopening _)
        · exact absurd ‹_› (hclosing _)
        · rfl
      rw [ih h, hpiece, trees_append, trees_reverse]
      omega

/-- **What the trees of a source weigh** is what its pieces weigh. -/
theorem trees_read (hdeep : μ.deep = true) {source : List Char} {ts : List Tree}
    (h : Tree.read source = .ok ts) :
    μ.trees ts = ((Lexer.pieces source).1.map μ.piece).sum := by
  have hnest : μ.trees ts = μ.frames [] + μ.trees [] + ((Lexer.pieces source).1.map μ.piece).sum :=
    μ.trees_nest hdeep h
  rwa [frames, trees_nil, Nat.zero_add] at hnest

/-! ## What is counted -/

/-- Counts the semicolons, those inside of groups as well or not. -/
def semicolons (deep : Bool) : Weight where
  ident _ := 0
  punct c := if c = ';' then 1 else 0
  literal _ := 0
  group _ := 0
  deep := deep
  underscore := rfl
  supplied c hc := if_neg (by rintro rfl; simp at hc)
  index _ := rfl

/-- Counts the semicolons inside literals. -/
def quotedSemicolons : Weight where
  ident _ := 0
  punct _ := 0
  literal text := text.toList.count ';'
  group _ := 0
  deep := true
  underscore := rfl
  supplied _ _ := rfl
  index n := List.count_eq_zero.mpr (not_mem_toString (by decide) n)

/-- Counts what no source has: names with a semicolon, literals that end in one, names and literals
without a text, and invisible groups. -/
def strange : Weight where
  ident text := if text.toList = [] ∨ ';' ∈ text.toList then 1 else 0
  punct _ := 0
  literal text := if text.toList = [] ∨ text.toList.getLast? = some ';' then 1 else 0
  group d := if d = .invisible then 1 else 0
  deep := true
  underscore := by decide
  supplied _ _ := rfl
  index n := by
    refine if_neg (not_or.mpr ⟨?_, fun h => ?_⟩)
    · rw [Nat.toString_eq_repr, Nat.toList_repr]
      exact Nat.toDigits_ne_nil
    · exact not_mem_toString (by decide) n (List.mem_of_getLast? h)

end Weight

end PegCheck.Host
