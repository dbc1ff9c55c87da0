import PegCheck.Proofs.Host.Phrase.Statements
import PegCheck.Host.Form

/-!
# What becomes of the final semicolon

The semicolon that is put after a snippet is read with it. Either it is a lone statement, which is
no form, or it ends the last statement of a snippet that has no semicolon there. It is taken off
again if that statement is an expression or a macro call, and it stays if it is a binding or an
item.

* `exists_last`: the statement that has the final semicolon.
* `Settled`: the forms have nothing that the snippet has not, or one semicolon more.
* **`settled_statementsOf`**: this is so for every snippet.
-/

namespace PegCheck.Host

/-! ## Semicolons at the end of trees -/

theorem isTerminated_concat (trees : List Tree) (t : Tree) :
    isTerminated (trees ++ [t]) = t.isSemicolon := by
  rw [isTerminated, List.getLast?_concat]
  cases t with
  | punct c joint place =>
    by_cases hc : c = ';'
    · subst hc
      rfl
    · rw [Tree.isSemicolon, beq_eq_false_iff_ne.mpr hc]
      split
      · rename_i heq
        exact absurd (Tree.punct.inj (Option.some.inj heq)).1 hc
      · rfl
  | _ => rfl

theorem isTerminated_append {trees more : List Tree} (h : more ≠ []) :
    isTerminated (trees ++ more) = isTerminated more := by
  rw [isTerminated, isTerminated, List.getLast?_append_of_ne_nil trees h]

theorem isTerminated_of_allows {trees : List Tree} (h : Extent.phrase.Allows trees) :
    isTerminated trees = false := by
  rcases List.eq_nil_or_concat trees with rfl | ⟨before, t, rfl⟩
  · rfl
  · rw [List.concat_eq_append] at h ⊢
    rw [isTerminated_concat, h t (by simp)]

namespace Weight

/-- A phrase has no semicolon outside of its groups. -/
theorem semicolons_eq_zero_iff (ts : List Tree) :
    (semicolons false).trees ts = 0 ↔ Extent.phrase.Allows ts := by
  induction ts with
  | nil => exact ⟨fun _ => nofun, fun _ => rfl⟩
  | cons t ts ih =>
    have htree : (semicolons false).tree t = 0 ↔ t.isSemicolon = false := by
      cases t with
      | punct c => simp [tree_punct, semicolons, Tree.isSemicolon]
      | _ => exact ⟨fun _ => rfl, fun _ => rfl⟩
    rw [trees_cons, Nat.add_eq_zero_iff, htree, ih]
    exact (List.forall_mem_cons (p := (Tree.isSemicolon · = false))).symm

end Weight

/-- What weighs no more than a phrase has no semicolon either. -/
theorem Extent.allows_of_weight_le {ts us : List Tree} (hus : phrase.Allows us)
    (hle : ∀ μ : Weight, μ.trees ts ≤ μ.trees us) : phrase.Allows ts := by
  have hzero := (Weight.semicolons_eq_zero_iff us).mpr hus
  exact (Weight.semicolons_eq_zero_iff ts).mp (Nat.eq_zero_of_le_zero (hzero ▸ hle _))

/-! ## The last statement -/

/-- Statements may be split anywhere. -/
theorem ReadUpTo.exists_middle {final trees : List Tree} {earlier later : List Statement}
    (h : ReadUpTo final trees (earlier ++ later)) :
    ∃ middle, ReadUpTo middle trees earlier ∧ ReadUpTo final middle later := by
  induction earlier generalizing trees with
  | nil => exact ⟨trees, .done, h⟩
  | cons s earlier ih =>
    cases h with
    | lone joint joint' place place' hlater =>
      obtain ⟨middle, hearlier, hrest⟩ := ih hlater
      exact ⟨middle, .lone joint joint' place place' hearlier, hrest⟩
    | cons hs hbegins hfirst hlater =>
      obtain ⟨middle, hearlier, hrest⟩ := ih hlater
      exact ⟨middle, .cons hs hbegins hfirst hearlier, hrest⟩

theorem ReadUpTo.eq_final {final trees : List Tree} (h : ReadUpTo final trees []) :
    trees = final := by
  cases h
  rfl

/-- **The last statement** of trees with the final semicolon: it is this semicolon alone, or a
phrase that it ends. -/
theorem exists_last {trees : List Tree} {read : List Statement}
    (h : ReadUpTo [] (trees ++ [finalSemicolon]) read) :
    ∃ earlier last used, read = earlier ++ [last] ∧
      (∀ μ : Weight, μ.trees (earlier.flatMap (·.trees)) ≤ μ.trees used) ∧
        ((used = trees ∧ last.kind = none ∧
            ReadUpTo [finalSemicolon] (trees ++ [finalSemicolon]) earlier) ∨
          ∃ phrase, trees = used ++ phrase ∧ phrase ≠ [] ∧
            last.IsReadFrom phrase [finalSemicolon]) := by
  rcases List.eq_nil_or_concat read with rfl | ⟨earlier, last, rfl⟩
  · nomatch List.append_eq_nil_iff.mp h.eq_final
  rw [List.concat_eq_append] at h ⊢
  obtain ⟨middle, hearlier, hlast⟩ := h.exists_middle
  obtain ⟨used, hused, hle⟩ := hearlier.exists_used
  refine ⟨earlier, last, used, rfl, hle, ?_⟩
  cases hlast with
  | lone joint joint' place place' hlater =>
    obtain rfl := hlater.eq_final
    obtain ⟨rfl, heq⟩ := List.append_inj' hused rfl
    exact .inl ⟨rfl, rfl, heq ▸ hearlier⟩
  | @cons _ first phrase ending _ rest' _ hs hbegins hfirst hlater =>
    obtain rfl := hlater.eq_final
    rw [List.append_nil] at hused hbegins
    obtain ⟨printed, ending', closed, -, -, hending, -⟩ := hs.parts
    cases hending with
    | none =>
      -- A phrase does not use up the final semicolon.
      rw [List.append_nil] at hused hbegins
      have hphrase : phrase ≠ [] := hbegins ▸ List.cons_ne_nil first rest'
      have hend := congrArg isTerminated hused
      rw [isTerminated_concat, isTerminated_append hphrase, isTerminated_of_allows hs.inner] at hend
      nomatch hend
    | semicolon joint joint' place place' =>
      rw [← List.append_assoc] at hused
      obtain ⟨rfl, heq⟩ := List.append_inj' hused rfl
      refine .inr ⟨phrase, rfl, ?_, heq ▸ hs⟩
      rintro rfl
      obtain ⟨rfl, -⟩ := List.cons.inj hbegins
      nomatch hfirst

/-- If the final semicolon is a lone statement and the trees have no semicolon at their end, then
the statement before has none either. -/
theorem exists_phrase {trees : List Tree} {earlier : List Statement} {last : Statement}
    (h : ReadUpTo [finalSemicolon] (trees ++ [finalSemicolon]) (earlier ++ [last]))
    (htrees : isTerminated trees = false) : ∃ phrase, last.IsReadFrom phrase [] := by
  obtain ⟨middle, hearlier, hlast⟩ := h.exists_middle
  obtain ⟨used, hused, -⟩ := hearlier.exists_used
  have hterminated (before : List Tree) (joint : Bool) (place : Place)
      (heq : trees ++ [finalSemicolon] = before ++ [.punct ';' joint place] ++ [finalSemicolon]) :
      False := by
    rw [List.append_cancel_right heq, isTerminated_concat] at htrees
    nomatch htrees
  cases hlast with
  | lone joint joint' place place' hlater =>
    obtain rfl := hlater.eq_final
    refine (hterminated used joint place ?_).elim
    rw [hused, List.append_assoc, List.singleton_append]
  | @cons _ _ phrase _ _ _ _ hs _ _ hlater =>
    obtain rfl := hlater.eq_final
    obtain ⟨printed, ending', closed, -, -, hending, -⟩ := hs.parts
    cases hending with
    | none => exact ⟨phrase, hs⟩
    | semicolon joint joint' place place' =>
      refine (hterminated (used ++ phrase) joint place ?_).elim
      rw [hused]
      simp only [List.append_assoc]

/-! ## Taking the semicolon off -/

namespace Statement.IsReadFrom

variable {s : Statement} {phrase : List Tree}

/-- A statement without a semicolon is no binding. -/
theorem isTerminated_eq_false (h : s.IsReadFrom phrase []) :
    isTerminated s.trees = false ∧ s.kind ≠ some .binding := by
  obtain ⟨printed, ending', closed, hparts, hle, hending, c, hkind, -, hfits⟩ := h.parts
  cases hending
  rw [hparts, List.append_nil]
  refine ⟨isTerminated_of_allows (Extent.allows_of_weight_le h.inner hle), fun hbinding => ?_⟩
  rw [Phrase.StatementClass.Fits, Option.some.inj (hkind.symm.trans hbinding)] at hfits
  cases hfits.1

/-- **Taking the semicolon off** leaves nothing of it, or the statement is a binding or an item. -/
theorem unterminated (h : s.IsReadFrom phrase [finalSemicolon]) :
    s.unterminated.IsReadFrom phrase [] ∨
      (s.unterminated = s ∧ isTerminated s.trees = true ∧
        (s.kind = some .binding ∨ s.kind = some .item)) := by
  obtain ⟨printed, ending', closed, hparts, hle, hending, c, hkind, hterminated, hfits⟩ := h.parts
  cases hending with
  | semicolon joint joint' place place' =>
    have hstays (hc : c.terminated = false) : s.unterminated = s := by
      rw [Statement.unterminated, hterminated, hc]
      rfl
    have hends : isTerminated s.trees = true := by
      rw [hparts, isTerminated_concat]
      rfl
    have htaken (hc : c.terminated = true)
        (hfits' : Phrase.StatementClass.Fits { c with terminated := false } false) :
        s.unterminated.IsReadFrom phrase [] := by
      have heq : s.unterminated = { s with trees := printed, terminated := false } := by
        rw [Statement.unterminated, hterminated, hc, if_pos rfl, hparts, List.dropLast_concat]
      rw [heq]
      exact ⟨h.inner, printed, [], false, (List.append_nil printed).symm, hle, .none,
        { c with terminated := false }, hkind, rfl, hfits'⟩
    unfold Phrase.StatementClass.Fits at hfits htaken
    cases hclass : c.kind <;> rw [hclass] at hfits htaken hkind
    case binding => exact .inr ⟨hstays hfits.2, hends, .inl hkind⟩
    case item => exact .inr ⟨hstays hfits, hends, .inr hkind⟩
    case expression => exact .inl (htaken hfits rfl)
    case macroCall => exact .inl (htaken hfits rfl)

end Statement.IsReadFrom

/-! ## The forms of a snippet -/

/-- The statements that are forms: all but lone semicolons. -/
def shown (statements : List Statement) : List Statement := statements.filter (·.kind.isSome)

theorem shown_concat_of_none {earlier : List Statement} {s : Statement} (h : s.kind = none) :
    shown (earlier ++ [s]) = shown earlier := by
  rw [shown, List.filter_append, List.filter_singleton, h]
  exact List.append_nil _

theorem shown_concat_of_some {earlier : List Statement} {s : Statement} {kind : FormKind}
    (h : s.kind = some kind) : shown (earlier ++ [s]) = shown earlier ++ [s] := by
  rw [shown, List.filter_append, List.filter_singleton, h]
  rfl

/-- The forms of some statements, with one more at the end. -/
theorem Weight.trees_concat_le {earlier : List Statement} {s : Statement} {ts us : List Tree}
    (hearlier : ∀ μ : Weight, μ.trees (earlier.flatMap (·.trees)) ≤ μ.trees ts)
    (hs : ∀ μ : Weight, μ.trees s.trees ≤ μ.trees us) (μ : Weight) :
    μ.trees ((earlier ++ [s]).flatMap (·.trees)) ≤ μ.trees (ts ++ us) := by
  rw [List.flatMap_append, List.flatMap_singleton, μ.trees_append, μ.trees_append]
  exact Nat.add_le_add (hearlier μ) (hs μ)

theorem Weight.trees_shown_le (μ : Weight) (statements : List Statement) :
    μ.trees ((shown statements).flatMap (·.trees)) ≤ μ.trees (statements.flatMap (·.trees)) := by
  induction statements with
  | nil => exact Nat.le_refl _
  | cons s later ih =>
    rw [shown, List.filter_cons]
    split
    · rw [List.flatMap_cons, List.flatMap_cons, μ.trees_append, μ.trees_append]
      exact Nat.add_le_add_left ih _
    · rw [List.flatMap_cons, μ.trees_append]
      exact Nat.le_add_left_of_le ih

/-- The forms of a snippet beside its trees. All that is in the forms is in the snippet, and without
a semicolon at its end the last form has none there; or a binding or an item at its end has a
semicolon that the snippet has not. -/
inductive Settled (trees : List Tree) (forms : List Statement) : Prop where
  | own (hle : ∀ μ : Weight, μ.trees (forms.flatMap (·.trees)) ≤ μ.trees trees)
      (hlast : isTerminated trees = false → ∀ s ∈ forms.getLast?,
        isTerminated s.trees = false ∧ s.kind ≠ some .binding)
  | borrowed {last : Statement} (hlast : last ∈ forms.getLast?)
      (hkind : last.kind = some .binding ∨ last.kind = some .item)
      (hends : isTerminated last.trees = true) (htrees : isTerminated trees = false)
      (hle : ∀ μ : Weight, μ.trees (forms.flatMap (·.trees)) ≤ μ.trees trees + μ.punct ';')

/-- The statements of a snippet are those that are read, but for the last one. -/
theorem statementsOf_concat {trees : List Tree} {earlier : List Statement} {last : Statement}
    (h : Phrase.read (trees ++ [finalSemicolon]) = .ok (earlier ++ [last])) :
    statementsOf trees =
      .ok (earlier ++ [if isTerminated trees = true then last else last.unterminated]) := by
  unfold statementsOf
  rw [h]
  cases htrees : isTerminated trees with
  | true => rfl
  | false =>
    change Except.ok ((earlier ++ [last]).dropLast ++
      (earlier ++ [last]).getLast?.toList.map Statement.unterminated) = _
    rw [List.dropLast_concat, List.getLast?_concat]
    rfl

theorem Statement.unterminated_kind (s : Statement) : s.unterminated.kind = s.kind := by
  unfold Statement.unterminated
  split <;> rfl

/-- **The semicolon that is put after a snippet** is not in its forms, unless the last one is a
binding or an item. -/
theorem settled_statementsOf {trees : List Tree} {statements : List Statement}
    (h : statementsOf trees = .ok statements) : Settled trees (shown statements) := by
  obtain ⟨read, hread⟩ : ∃ read, Phrase.read (trees ++ [finalSemicolon]) = .ok read := by
    unfold statementsOf at h
    cases hread : Phrase.read (trees ++ [finalSemicolon]) with
    | error fault => rw [hread] at h; nomatch h
    | ok read => exact ⟨read, rfl⟩
  obtain ⟨earlier, last, used, rfl, hle, hlast⟩ := exists_last (Phrase.readUpTo_of_read hread)
  have hshown (μ : Weight) : μ.trees ((shown earlier).flatMap (·.trees)) ≤ μ.trees used :=
    (μ.trees_shown_le earlier).trans (hle μ)
  obtain rfl := Except.ok.inj ((statementsOf_concat hread).symm.trans h)
  rcases hlast with ⟨rfl, hnone, hearlier⟩ | ⟨phrase, rfl, hphrase, hlast⟩
  · -- The final semicolon is a lone statement.
    rw [shown_concat_of_none (by split; exacts [hnone, last.unterminated_kind.trans hnone])]
    refine .own hshown fun htrees s hs => ?_
    rcases List.eq_nil_or_concat earlier with rfl | ⟨before, s', rfl⟩
    · nomatch hs
    · rw [List.concat_eq_append] at hearlier hs
      obtain ⟨phrase, hs'⟩ := exists_phrase hearlier htrees
      obtain ⟨kind, hkind⟩ := hs'.exists_kind
      rw [shown_concat_of_some hkind, List.getLast?_concat, Option.mem_some_iff] at hs
      exact hs ▸ hs'.isTerminated_eq_false
  · -- The final semicolon ends the last statement.
    have htrees : isTerminated (used ++ phrase) = false := by
      rw [isTerminated_append hphrase, isTerminated_of_allows hlast.inner]
    obtain ⟨kind, hkind⟩ := hlast.exists_kind
    rw [htrees, if_neg Bool.false_ne_true,
      shown_concat_of_some (last.unterminated_kind.trans hkind)]
    rcases hlast.unterminated with hoff | ⟨hsame, hends, hstays⟩
    · refine .own (Weight.trees_concat_le hshown fun μ => ?_) fun _ s hs => ?_
      · have hweight := hoff.weight_le μ
        rwa [List.append_nil] at hweight
      · rw [List.getLast?_concat, Option.mem_some_iff] at hs
        exact hs ▸ hoff.isTerminated_eq_false
    · rw [hsame]
      refine .borrowed List.getLast?_concat hstays hends htrees fun μ => ?_
      have hweight := Weight.trees_concat_le hshown hlast.weight_le μ
      rwa [← List.append_assoc, μ.trees_append] at hweight

end PegCheck.Host
