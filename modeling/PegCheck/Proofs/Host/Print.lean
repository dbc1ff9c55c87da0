import PegCheck.Proofs.Host.Terminator

/-!
# Semicolons in the text of a form

The text of a form is that of its trees, so its semicolons are trees of their own or stand inside
literals. This rests on what no source has, `Weight.strange`: names with a semicolon, literals that
end in one, leaves without a text, and invisible groups.

* `semicolons`, `quotedSemicolons`: the semicolons among tokens, and those inside their literals.
* **`count_printAll`**: the semicolons of a text.
* **`endsInSemicolon_printAll`**: its last character is a semicolon if its last tree is one.
-/

namespace PegCheck.HostToken

/-- Is the token a semicolon? -/
def isSemicolon (t : HostToken) : Bool := t.kind == .punct && t.text == ";"

/-- The text of a literal; other tokens have none. -/
def quoted (t : HostToken) : List Char := if t.kind = .literal then t.text.toList else []

end PegCheck.HostToken

namespace PegCheck.Host

/-! ## Semicolons among tokens -/

/-- The number of semicolons among tokens. -/
def semicolons (tokens : List HostToken) : Nat := tokens.countP HostToken.isSemicolon

/-- The number of semicolons inside the literals among tokens. -/
def quotedSemicolons (tokens : List HostToken) : Nat := (tokens.flatMap HostToken.quoted).count ';'

theorem singleton_beq_semicolon (c : Char) : (String.singleton c == ";") = (c == ';') := by
  rw [Bool.eq_iff_iff, beq_iff_eq, beq_iff_eq, ← String.toList_inj, String.toList_singleton]
  exact List.singleton_inj

theorem counts_semicolons :
    (Weight.semicolons true).Counts fun t => if t.isSemicolon = true then 1 else 0 where
  deep := rfl
  group _ := rfl
  ident _ _ := rfl
  punct c position := by
    rw [HostToken.isSemicolon, singleton_beq_semicolon, Weight.semicolons]
    simp
  literal _ _ := rfl
  delimiter _ _ := rfl

theorem counts_quotedSemicolons :
    Weight.quotedSemicolons.Counts fun t => t.quoted.count ';' where
  deep := rfl
  group _ := rfl
  ident _ _ := rfl
  punct _ _ := rfl
  literal _ _ := rfl
  delimiter _ _ := rfl

/-- **The semicolons among the tokens** of trees. -/
theorem semicolons_flattenAll (start : Position) (ts : List Tree) :
    semicolons (Tree.flattenAll start ts) = (Weight.semicolons true).trees ts := by
  rw [← counts_semicolons.trees start ts, semicolons]
  generalize Tree.flattenAll start ts = tokens
  conv_lhs => rw [← List.flatMap_singleton' tokens, List.countP_flatMap]
  exact congrArg List.sum (List.map_congr_left fun t _ => List.countP_singleton)

theorem quotedSemicolons_flattenAll (start : Position) (ts : List Tree) :
    quotedSemicolons (Tree.flattenAll start ts) = Weight.quotedSemicolons.trees ts := by
  rw [← counts_quotedSemicolons.trees start ts, quotedSemicolons, List.count_flatMap]
  rfl

/-! ## Semicolons in a text -/

namespace Tree

theorem count_enclose (d : Delimiter) (inside : String) :
    (enclose d inside).toList.count ';' = inside.toList.count ';' := by
  cases d with
  | parenthesis | bracket => simp [enclose]
  | brace =>
    change (if inside.isEmpty = true then _ else _ : String).toList.count ';' = _
    split
    · rename_i hempty
      rw [String.isEmpty_iff.mp hempty]
      rfl
    · simp
  | invisible => rfl

theorem printAll_cons_cons (t u : Tree) (ts : List Tree) :
    printAll (t :: u :: ts) = t.print ++ (if t.isJoint then "" else " ") ++ printAll (u :: ts) :=
  rfl

mutual

theorem count_print : (t : Tree) → Weight.strange.tree t = 0 →
    t.print.toList.count ';' = (Weight.semicolons true).tree t + Weight.quotedSemicolons.tree t
  | ident text place, h => by
    rw [Weight.tree_ident, Weight.strange, ite_eq_right_iff] at h
    have hnone : ';' ∉ text.toList := fun hmem => nomatch h (.inr hmem)
    exact List.count_eq_zero.mpr hnone
  | punct c joint place, _ => by
    rw [print, String.toList_singleton, List.count_singleton]
    simp only [Weight.tree_punct, Weight.semicolons, Weight.quotedSemicolons, beq_iff_eq]
    rfl
  | literal text place, _ => (Nat.zero_add _).symm
  | group d content opened closed, h => by
    have hcontent : Weight.strange.trees content = 0 := (Nat.add_eq_zero_iff.mp h).2
    rw [print, count_enclose, count_printAll content hcontent]
    simp [Weight.tree_group, Weight.semicolons, Weight.quotedSemicolons]

/-- **The semicolons of a text** are trees or stand inside literals. -/
theorem count_printAll : (ts : List Tree) → Weight.strange.trees ts = 0 →
    (printAll ts).toList.count ';' =
      (Weight.semicolons true).trees ts + Weight.quotedSemicolons.trees ts
  | [], _ => rfl
  | [t], h => count_print t h
  | t :: u :: ts, h => by
    obtain ⟨ht, hts⟩ := Nat.add_eq_zero_iff.mp h
    have hspace : (if t.isJoint = true then "" else " ").toList.count ';' = 0 := by split <;> rfl
    rw [printAll_cons_cons, String.toList_append, String.toList_append, List.count_append,
      List.count_append, hspace, count_print t ht, count_printAll (u :: ts) hts]
    simp only [Weight.trees_cons]
    omega

end

/-! ## The end of a text -/

/-- The text of trees ends with that of the last one. -/
theorem exists_printAll_concat (front : List Tree) (t : Tree) :
    ∃ before, (printAll (front ++ [t])).toList = before ++ t.print.toList := by
  induction front with
  | nil => exact ⟨[], rfl⟩
  | cons u front ih =>
    obtain ⟨before, hbefore⟩ := ih
    obtain ⟨v, rest, hrest⟩ : ∃ v rest, front ++ [t] = v :: rest :=
      List.exists_cons_of_ne_nil (by simp)
    rw [List.cons_append, hrest, printAll_cons_cons, ← hrest, String.toList_append, hbefore,
      ← List.append_assoc]
    exact ⟨_, rfl⟩

theorem getLast?_enclose {d : Delimiter} (hd : d ≠ .invisible) (inside : String) :
    ∃ c ≠ ';', (enclose d inside).toList.getLast? = some c := by
  cases d with
  | parenthesis =>
    refine ⟨')', by decide, ?_⟩
    rw [enclose, String.toList_append]
    exact List.getLast?_concat
  | bracket =>
    refine ⟨']', by decide, ?_⟩
    rw [enclose, String.toList_append]
    exact List.getLast?_concat
  | brace =>
    refine ⟨'\x7d', by decide, ?_⟩
    change (if inside.isEmpty = true then _ else _ : String).toList.getLast? = _
    split
    · rfl
    · rw [String.toList_append]
      exact List.getLast?_append_of_ne_nil _ (by decide)
  | invisible => exact absurd rfl hd

/-- The text of a tree ends with a semicolon if the tree is one. -/
theorem exists_getLast?_print {t : Tree} (h : Weight.strange.tree t = 0) :
    ∃ c, t.print.toList.getLast? = some c ∧ (c = ';' ↔ t.isSemicolon = true) := by
  cases t with
  | ident text place =>
    rw [Weight.tree_ident, Weight.strange, ite_eq_right_iff] at h
    have hne : text.toList ≠ [] := fun hnil => nomatch h (.inl hnil)
    refine ⟨_, List.getLast?_eq_some_getLast hne, fun hlast => ?_, nofun⟩
    nomatch h (.inr (hlast ▸ List.getLast_mem hne))
  | punct c joint place =>
    exact ⟨c, by rw [print, String.toList_singleton]; rfl, beq_iff_eq.symm⟩
  | literal text place =>
    rw [Weight.tree_literal, Weight.strange, ite_eq_right_iff] at h
    have hne : text.toList ≠ [] := fun hnil => nomatch h (.inl hnil)
    refine ⟨_, List.getLast?_eq_some_getLast hne, fun hlast => ?_, nofun⟩
    nomatch h (.inr (hlast ▸ List.getLast?_eq_some_getLast hne))
  | group d content opened closed =>
    have hd : d ≠ .invisible := by
      rintro rfl
      nomatch (Nat.add_eq_zero_iff.mp h).1
    obtain ⟨c, hc, hlast⟩ := getLast?_enclose hd (printAll content)
    exact ⟨c, hlast, fun heq => absurd heq hc, nofun⟩

/-- The last token of a tree is a semicolon if the tree is one. -/
theorem exists_getLast?_flatten {t : Tree} (h : Weight.strange.tree t = 0) (start : Position) :
    ∃ token, (t.flatten start).getLast? = some token ∧ token.isSemicolon = t.isSemicolon := by
  cases t with
  | ident text place => exact ⟨_, rfl, rfl⟩
  | punct c joint place =>
    refine ⟨⟨.punct, String.singleton c, start.offsetBy place⟩, rfl, ?_⟩
    rw [HostToken.isSemicolon, isSemicolon, singleton_beq_semicolon]
    rfl
  | literal text place => exact ⟨_, rfl, rfl⟩
  | group d content opened closed =>
    rw [flatten_group, ← List.append_assoc]
    cases d with
    | invisible => exact absurd (Nat.add_eq_zero_iff.mp h).1 (by decide)
    | _ => exact ⟨⟨.delimiter, _, start.offsetBy closed⟩, List.getLast?_concat, rfl⟩

end Tree

/-- Does the text end with a semicolon? -/
def endsInSemicolon (text : String) : Bool := text.toList.getLast? == some ';'

/-- **The last character of a text** is a semicolon if the last tree is one. -/
theorem endsInSemicolon_printAll {ts : List Tree} (h : Weight.strange.trees ts = 0) :
    endsInSemicolon (Tree.printAll ts) = isTerminated ts := by
  rcases List.eq_nil_or_concat ts with rfl | ⟨front, t, rfl⟩
  · rfl
  · rw [List.concat_eq_append] at h ⊢
    rw [Weight.trees_append] at h
    obtain ⟨c, hlast, hc⟩ := Tree.exists_getLast?_print (Nat.add_eq_zero_iff.mp h).2
    obtain ⟨before, hbefore⟩ := Tree.exists_printAll_concat front t
    have hne : t.print.toList ≠ [] := fun hnil => by rw [hnil] at hlast; nomatch hlast
    rw [endsInSemicolon, hbefore, List.getLast?_append_of_ne_nil before hne, hlast,
      isTerminated_concat, Bool.eq_iff_iff, beq_iff_eq, Option.some_inj, hc]

/-- **The last token** is a semicolon if the last tree is one. -/
theorem getLast?_flattenAll {ts : List Tree} (h : Weight.strange.trees ts = 0) (start : Position) :
    (Tree.flattenAll start ts).getLast?.any HostToken.isSemicolon = isTerminated ts := by
  rcases List.eq_nil_or_concat ts with rfl | ⟨front, t, rfl⟩
  · rfl
  · rw [List.concat_eq_append] at h ⊢
    rw [Weight.trees_append] at h
    obtain ⟨token, hlast, htoken⟩ := Tree.exists_getLast?_flatten (Nat.add_eq_zero_iff.mp h).2 start
    have hne : t.flatten start ≠ [] := fun hnil => by rw [hnil] at hlast; nomatch hlast
    rw [Tree.flattenAll_append, Tree.flattenAll, Tree.flattenAll, List.append_nil,
      List.getLast?_append_of_ne_nil _ hne, hlast, isTerminated_concat]
    exact htoken

end PegCheck.Host
