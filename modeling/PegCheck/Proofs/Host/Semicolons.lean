import PegCheck.Proofs.Host.Print

/-!
# The semicolons of a snippet and of its forms

A snippet is read with a semicolon put after it. The forms have all their semicolons from the
snippet, but for this one: a binding at the end of a snippet keeps it, and so does an item that
needs it.

* `strange_read`: what no source has.
* `getLast?_shown`: the last form and its statement.
* **`semicolons_of_parse`**: how many semicolons the forms have, and which of them end in one;
  `semicolons_unterminated_binding` is a binding that ends in one, of a snippet that has none.
-/

namespace PegCheck.Host

open Lexer Literal Comments

/-! ## What no source has -/

/-- The last character of the rest of a string is its closing quote. -/
theorem exists_stringTail? {cs : List Char} {n : Nat} (h : stringTail? cs = some n) :
    ∃ k, n = k + 1 ∧ cs[k]? = some '"' := by
  fun_induction stringTail? cs generalizing n with
  | case1 =>
    cases h
    exact ⟨0, rfl, rfl⟩
  | case2 _ rest ih =>
    obtain ⟨m, hm, rfl⟩ := Option.map_eq_some_iff.mp h
    obtain ⟨k, rfl, hk⟩ := ih hm
    exact ⟨k + 2, rfl, hk⟩
  | case3 => nomatch h
  | case4 _ rest _ _ _ ih =>
    obtain ⟨m, hm, rfl⟩ := Option.map_eq_some_iff.mp h
    obtain ⟨k, rfl, hk⟩ := ih hm
    exact ⟨k + 1, rfl, hk⟩
  | case5 => nomatch h

/-- The last character of the rest of a raw string is its closing quote or a hash. -/
theorem exists_rawTail? {hashes : Nat} {cs : List Char} {n : Nat}
    (h : rawTail? hashes cs = some n) :
    ∃ k, n = k + 1 ∧ (cs[k]? = some '"' ∨ cs[k]? = some '#') := by
  induction cs generalizing n with
  | nil => nomatch h
  | cons c rest ih =>
    unfold rawTail? at h
    split at h
    · rename_i hclosed
      cases h
      obtain ⟨hc, hprefix⟩ := Bool.and_eq_true_iff.mp hclosed
      refine ⟨hashes, rfl, ?_⟩
      cases hashes with
      | zero => exact .inl (by rw [eq_of_beq hc]; rfl)
      | succ hashes =>
        obtain ⟨after, rfl⟩ := List.isPrefixOf_iff_prefix.mp hprefix
        right
        rw [List.getElem?_cons_succ, List.getElem?_append_left (by simp),
          List.getElem?_replicate_of_lt (Nat.lt_succ_self hashes)]
    · obtain ⟨m, hm, rfl⟩ := Option.map_eq_some_iff.mp h
      obtain ⟨k, rfl, hk⟩ := ih hm
      exact ⟨k + 1, rfl, hk⟩

theorem semicolon_not_mem_name {text after : List Char} (h : IsName text after) : ';' ∉ text :=
  fun hmem => absurd (h.continues ';' hmem) (by decide)

theorem getLast?_suffix {front suffix after : List Char} {mark : Char} (hmark : mark ≠ ';')
    (hsuffix : IsSuffix suffix after) : (front ++ mark :: suffix).getLast? ≠ some ';' := by
  rcases hsuffix with rfl | hname
  · rw [List.getLast?_concat]
    exact fun h => hmark (Option.some.inj h)
  · rw [List.append_cons, List.getLast?_append_of_ne_nil _ hname.ne_nil]
    exact fun h => semicolon_not_mem_name hname (List.mem_of_getLast? h)

/-- No literal ends in a semicolon. -/
theorem getLast?_literal {text after : List Char} (h : IsLiteral text after) :
    text.getLast? ≠ some ';' := by
  cases h with
  | @string lead body suffix _ mark _ _ hend hsuffix =>
    obtain ⟨k, hk, hquote⟩ := exists_stringTail? hend
    obtain rfl := Nat.succ.inj hk
    rw [List.getElem?_append_right (Nat.le_refl _), Nat.sub_self] at hquote
    obtain rfl := Option.some.inj hquote
    rw [← List.cons_append, ← List.append_assoc]
    exact getLast?_suffix (by decide) hsuffix
  | @raw lead body suffix _ mark hashes _ _ hend hsuffix =>
    obtain ⟨k, hk, hquote⟩ := exists_rawTail? hend
    obtain rfl := Nat.succ.inj hk
    rw [List.getElem?_append_right (Nat.le_refl _), Nat.sub_self] at hquote
    have hmark : mark ≠ ';' := by
      rcases hquote with hquote | hquote <;> obtain rfl := Option.some.inj hquote <;> decide
    rw [← List.cons_append, ← List.append_assoc, ← List.append_assoc]
    exact getLast?_suffix hmark hsuffix
  | @character lead body suffix _ _ _ hsuffix =>
    rw [← List.cons_append, ← List.append_assoc]
    exact getLast?_suffix (by decide) hsuffix
  | number _ hparts =>
    exact fun h => absurd (hparts ';' (List.mem_of_getLast? h)) (by decide)

theorem semicolon_not_mem_identifier {text after : List Char} (h : IsIdentifier text after) :
    ';' ∉ text := by
  cases h with
  | plain hname => exact semicolon_not_mem_name hname
  | raw hname => simpa using semicolon_not_mem_name hname

theorem strange_literal {text : List Char} (hne : text ≠ []) (hlast : text.getLast? ≠ some ';') :
    Weight.strange.literal (String.ofList text) = 0 := by
  simp only [Weight.strange, String.toList_ofList]
  exact if_neg (not_or.mpr ⟨hne, hlast⟩)

theorem strange_piece {kind : PieceKind} {place : Place} {text after : List Char}
    (h : IsPiece kind text after) : Weight.strange.piece ⟨kind, place, text⟩ = 0 := by
  cases h with
  | blank | comment | quote | punct => rfl
  | @documentation inner body =>
    have hquoted : (Text.stringLiteral body).getLast? ≠ some ';' := by
      rw [Text.stringLiteral, ← List.cons_append, List.getLast?_concat]
      decide
    have hname : Weight.strange.ident "doc" = 0 := by decide
    have hliteral : Weight.strange.literal (String.ofList (Text.stringLiteral body)) = 0 :=
      strange_literal (List.cons_ne_nil _ _) hquoted
    have hpunct (c : Char) : Weight.strange.punct c = 0 := rfl
    have hgroup : Weight.strange.group .bracket = 0 := rfl
    change Weight.strange.trees (Tree.ofDocumentation ..) = 0
    cases inner <;>
      simp [Tree.ofDocumentation, Weight.tree_punct, Weight.tree_group, Weight.tree_ident,
        Weight.tree_literal, hname, hliteral, hpunct, hgroup]
  | faultMark =>
    have hne : faultMark ≠ [] := by decide
    have hlast : faultMark.getLast? ≠ some ';' := by decide
    exact strange_literal hne hlast
  | delimiter hc =>
    obtain ⟨d, opening, close, hmarks, ⟨rfl, -⟩ | ⟨rfl, -⟩⟩ := delimiter?_eq_some hc
    · cases d with
      | invisible => nomatch hmarks
      | _ => rfl
    · rfl
  | literal hliteral => exact strange_literal hliteral.ne_nil (getLast?_literal hliteral)
  | ident hident =>
    change Weight.strange.ident (String.ofList text) = 0
    simp only [Weight.strange, String.toList_ofList]
    exact if_neg (not_or.mpr ⟨hident.ne_nil, semicolon_not_mem_identifier hident⟩)

theorem strange_cuts {place : Place} {cs : List Char} {ps : List Piece} (h : Cuts place cs ps) :
    (ps.map Weight.strange.piece).sum = 0 := by
  induction h with
  | nil => rfl
  | cons _ _ hpiece _ ih => rw [List.map_cons, List.sum_cons, strange_piece hpiece, ih]

/-- **What no source has** is not in the trees of a source. -/
theorem strange_read {source : List Char} {trees : List Tree} (h : Tree.read source = .ok trees) :
    Weight.strange.trees trees = 0 := by
  rw [Weight.strange.trees_read rfl h]
  have hpieces := (Tree.flattenAll_read ⟨1, 1⟩ h).1
  rcases cuts_pieces hpieces with hcuts | ⟨rest, later, rfl, hpieces, hcuts⟩
  · exact strange_cuts hcuts
  · rw [hpieces, List.map_cons, List.sum_cons, strange_cuts hcuts]
    rfl

/-! ## Forms and statements -/

/-- The tokens of the statements that are forms. -/
def formTokens (start : Position) (statements : List Statement) : List HostToken :=
  (shown statements).flatMap fun s => Tree.flattenAll start s.trees

theorem formTokens_eq (start : Position) (statements : List Statement) :
    formTokens start statements =
      Tree.flattenAll start ((shown statements).flatMap (·.trees)) := by
  unfold formTokens
  induction shown statements with
  | nil => rfl
  | cons s later ih => rw [List.flatMap_cons, List.flatMap_cons, Tree.flattenAll_append, ih]

/-- Each form has the kind and the text of a statement. -/
theorem map_shown (start : Position) (statements : List Statement) :
    (shown statements).map (fun s => (s.kind, Tree.printAll s.trees)) =
      (statements.filterMap (Statement.form? start)).map
        fun form => (some form.kind, form.text) := by
  induction statements with
  | nil => rfl
  | cons s later ih =>
    rw [shown, List.filter_cons, List.filterMap_cons]
    cases hkind : s.kind with
    | none =>
      have hform : s.form? start = none := by rw [Statement.form?, hkind]; rfl
      rw [hform]
      exact ih
    | some kind =>
      obtain ⟨form, hform, hshown⟩ : ∃ form, s.form? start = some form ∧
          (some kind, Tree.printAll s.trees) = (some form.kind, form.text) :=
        ⟨_, by rw [Statement.form?, hkind]; rfl, rfl⟩
      rw [hform]
      change (s :: shown later).map _ = (form :: later.filterMap _).map _
      rw [List.map_cons, List.map_cons, hkind, hshown, ih]

/-- The last form is that of the last statement that is one. -/
theorem getLast?_shown (start : Position) (statements : List Statement) :
    (shown statements).getLast?.map (fun s => (s.kind, Tree.printAll s.trees)) =
      (statements.filterMap (Statement.form? start)).getLast?.map
        fun form => (some form.kind, form.text) := by
  rw [← List.getLast?_map, ← List.getLast?_map, map_shown]

theorem exists_statements_of_parse {code : String} {start : Position} {parsed : ParsedCode}
    (h : parse code start = .ok parsed) :
    ∃ trees statements, Tree.read code.toList = .ok trees ∧ statementsOf trees = .ok statements ∧
      parsed.tokens = Tree.flattenAll start trees ∧
        parsed.forms = statements.filterMap (Statement.form? start) := by
  obtain ⟨trees, forms, hread, hforms, rfl⟩ := exists_trees_of_parse h
  unfold formsOf at hforms
  cases hstatements : statementsOf trees with
  | error fault =>
    rw [hstatements] at hforms
    nomatch hforms
  | ok statements =>
    rw [hstatements] at hforms
    exact ⟨trees, statements, hread, hstatements, rfl, (Except.ok.inj hforms).symm⟩

/-! ## The semicolons of the forms -/

theorem Settled.weight_le {trees : List Tree} {forms : List Statement} (h : Settled trees forms)
    (μ : Weight) : μ.trees (forms.flatMap (·.trees)) ≤ μ.trees trees + μ.punct ';' := by
  cases h with
  | own hle => exact Nat.le_add_right_of_le (hle μ)
  | borrowed _ _ _ _ hle => exact hle μ

/-- In a snippet that does not end in a semicolon, the last statement that is a form does so only if
it is a binding or an item, and a binding does. -/
theorem Settled.isTerminated_last {trees : List Tree} {forms : List Statement} {s : Statement}
    (h : Settled trees forms) (htrees : isTerminated trees = false) (hs : s ∈ forms.getLast?) :
    (isTerminated s.trees = true → s.kind = some .binding ∨ s.kind = some .item) ∧
      (s.kind = some .binding → isTerminated s.trees = true) := by
  cases h with
  | own _ hlast =>
    obtain ⟨hnone, hbinding⟩ := hlast htrees s hs
    rw [hnone]
    exact ⟨fun hends => absurd hends Bool.false_ne_true, fun hkind => absurd hkind hbinding⟩
  | @borrowed last hlast hkinds hterminated =>
    obtain rfl := Option.some.inj (hs.symm.trans hlast)
    exact ⟨fun _ => hkinds, fun _ => hterminated⟩

/-- The last form is that of the last statement that is one, which tells how its text ends. -/
theorem mem_getLast?_shown {start : Position} {statements : List Statement} {form : HostForm}
    (hshown : ∀ s ∈ shown statements, Weight.strange.trees s.trees = 0)
    (hform : form ∈ (statements.filterMap (Statement.form? start)).getLast?) :
    ∃ s ∈ (shown statements).getLast?,
      s.kind = some form.kind ∧ endsInSemicolon form.text = isTerminated s.trees := by
  have hlast := getLast?_shown start statements
  rw [Option.mem_def.mp hform, Option.map_some] at hlast
  obtain ⟨s, hs, heq⟩ := Option.map_eq_some_iff.mp hlast
  obtain ⟨hkind, htext⟩ := Prod.mk.inj heq
  refine ⟨s, hs, hkind, ?_⟩
  rw [← htext]
  exact endsInSemicolon_printAll (hshown s (List.mem_of_getLast? hs))

/-- The last statement that is a form gives the last form. -/
theorem exists_mem_getLast?_forms (start : Position) {statements : List Statement} {s : Statement}
    (hs : s ∈ (shown statements).getLast?) :
    ∃ form, form ∈ (statements.filterMap (Statement.form? start)).getLast? := by
  have hlast := getLast?_shown start statements
  rw [Option.mem_def.mp hs, Option.map_some] at hlast
  obtain ⟨form, hform, -⟩ := Option.map_eq_some_iff.mp hlast.symm
  exact ⟨form, hform⟩

/-- What no source has is not in its forms either. -/
theorem Settled.strange_eq_zero {trees : List Tree} {forms : List Statement}
    (h : Settled trees forms) (htrees : Weight.strange.trees trees = 0) :
    ∀ s ∈ forms, Weight.strange.trees s.trees = 0 := by
  intro s hs
  have hle := h.weight_le Weight.strange
  have hpunct : Weight.strange.punct ';' = 0 := rfl
  rw [htrees, hpunct] at hle
  obtain ⟨before, after, rfl⟩ := List.append_of_mem hs
  rw [List.flatMap_append, List.flatMap_cons, Weight.trees_append, Weight.trees_append] at hle
  exact Nat.eq_zero_of_le_zero (by omega)

/-- The snippet does not end in a semicolon, but the text of its last form does. -/
def borrowsSemicolon (parsed : ParsedCode) : Bool :=
  !parsed.tokens.getLast?.any HostToken.isSemicolon &&
    parsed.forms.getLast?.any fun form => endsInSemicolon form.text

/-- The semicolons of the forms beside those of their snippet. -/
structure SemicolonAccount (start : Position) (parsed : ParsedCode) (statements : List Statement) :
    Prop where
  /-- The forms are those of the statements. -/
  forms : parsed.forms = statements.filterMap (Statement.form? start)
  /-- A semicolon in the text of a form is one of its tokens or stands inside one of its literals.
  -/
  texts : ∀ s ∈ shown statements, (Tree.printAll s.trees).toList.count ';' =
    semicolons (Tree.flattenAll start s.trees) + quotedSemicolons (Tree.flattenAll start s.trees)
  /-- The forms have at most one semicolon more than the snippet, and only if the last form ends in
  a semicolon and the snippet does not. -/
  tokens : semicolons (formTokens start statements) ≤
    semicolons parsed.tokens + (borrowsSemicolon parsed).toNat
  /-- Their literals have no more semicolons than those of the snippet. -/
  literals : quotedSemicolons (formTokens start statements) ≤ quotedSemicolons parsed.tokens
  /-- If the snippet does not end in a semicolon, the last form does not either, or it is a binding
  or an item. A binding always does. -/
  last : parsed.tokens.getLast?.any HostToken.isSemicolon = false →
    ∀ form ∈ parsed.forms.getLast?,
      (endsInSemicolon form.text = true → form.kind = .binding ∨ form.kind = .item) ∧
        (form.kind = .binding → endsInSemicolon form.text = true)

/-- **The semicolons of the forms** of any accepted snippet are its own, but for one at the end of a
binding or of an item. -/
theorem semicolons_of_parse {code : String} {start : Position} {parsed : ParsedCode}
    (h : parse code start = .ok parsed) :
    ∃ trees statements, Tree.read code.toList = .ok trees ∧ statementsOf trees = .ok statements ∧
      SemicolonAccount start parsed statements := by
  obtain ⟨trees, statements, hread, hstatements, htokens, hforms⟩ := exists_statements_of_parse h
  have hsettled := settled_statementsOf hstatements
  have hstrange := strange_read hread
  have hshown := hsettled.strange_eq_zero hstrange
  have hlastToken := getLast?_flattenAll hstrange start
  rw [← htokens] at hlastToken
  have hlastForm : ∀ form ∈ parsed.forms.getLast?, ∃ s ∈ (shown statements).getLast?,
      s.kind = some form.kind ∧ endsInSemicolon form.text = isTerminated s.trees := by
    rw [hforms]
    exact fun form hform => mem_getLast?_shown hshown hform
  have hsemicolons := semicolons_flattenAll start trees
  have hquoted := quotedSemicolons_flattenAll start trees
  rw [← htokens] at hsemicolons hquoted
  refine ⟨trees, statements, hread, hstatements, hforms, fun s hs => ?_, ?_, ?_, ?_⟩
  · rw [Tree.count_printAll s.trees (hshown s hs), semicolons_flattenAll,
      quotedSemicolons_flattenAll]
  · -- Semicolons are counted by their weight.
    rw [formTokens_eq, semicolons_flattenAll, hsemicolons]
    cases hsettled with
    | own hle => exact Nat.le_add_right_of_le (hle _)
    | @borrowed last hlast _ hterminated htrees hle =>
      have hborrows : borrowsSemicolon parsed = true := by
        obtain ⟨form, hform⟩ := exists_mem_getLast?_forms start hlast
        rw [← hforms] at hform
        obtain ⟨s, hs, -, hends⟩ := hlastForm form hform
        obtain rfl := Option.some.inj (hs.symm.trans hlast)
        rw [borrowsSemicolon, hlastToken, htrees, Option.mem_def.mp hform, Option.any_some, hends,
          hterminated]
        rfl
      rw [hborrows]
      exact hle _
  · rw [formTokens_eq, quotedSemicolons_flattenAll, hquoted]
    exact hsettled.weight_le Weight.quotedSemicolons
  · -- The last form is that of the last statement, which tells how it ends.
    intro hunterminated form hform
    rw [hlastToken] at hunterminated
    obtain ⟨s, hs, hkind, hends⟩ := hlastForm form hform
    have hlast := hsettled.isTerminated_last hunterminated hs
    rw [hkind, Option.some_inj, Option.some_inj] at hlast
    rw [hends]
    exact hlast

theorem exists_of_toOption_parse {α : Type} {code : String} {start : Position} {f : ParsedCode → α}
    {a : α} (h : (parse code start).toOption.map f = some a) :
    ∃ parsed, parse code start = .ok parsed ∧ f parsed = a := by
  obtain ⟨parsed, hparsed, ha⟩ := Option.map_eq_some_iff.mp h
  refine ⟨parsed, ?_, ha⟩
  cases hparse : parse code start with
  | error fault => rw [hparse] at hparsed; nomatch hparsed
  | ok parsed' => rw [hparse] at hparsed; exact congrArg _ (Option.some.inj hparsed)

/-- A snippet with semicolons of its own, inside a group and inside a literal, but none at its end.
-/
def unterminatedSnippet : String := "f(\";\");; let a = [1; 2]"

theorem semicolons_of_parse_sample :
    ∃ parsed, parse unterminatedSnippet ⟨1, 1⟩ = .ok parsed ∧
      (semicolons parsed.tokens = 3 ∧ quotedSemicolons parsed.tokens = 1 ∧
        borrowsSemicolon parsed = true ∧
        parsed.forms.map (·.text) = ["f (\";\") ;", "let a = [1 ; 2] ;"]) ∧
      ∃ trees statements, Tree.read unterminatedSnippet.toList = .ok trees ∧
        statementsOf trees = .ok statements ∧ SemicolonAccount ⟨1, 1⟩ parsed statements := by
  have hshown : (parse unterminatedSnippet ⟨1, 1⟩).toOption.map (fun parsed =>
      decide (semicolons parsed.tokens = 3 ∧ quotedSemicolons parsed.tokens = 1 ∧
        borrowsSemicolon parsed = true ∧
        parsed.forms.map (·.text) = ["f (\";\") ;", "let a = [1 ; 2] ;"])) = some true := by
    decide +kernel
  obtain ⟨parsed, hparsed, hfacts⟩ := exists_of_toOption_parse hshown
  exact ⟨parsed, hparsed, of_decide_eq_true hfacts, semicolons_of_parse hparsed⟩

/-- A binding that ends in a semicolon, of a snippet that has none. -/
theorem semicolons_unterminated_binding :
    ∃ parsed, parse "let x = 1" ⟨1, 1⟩ = .ok parsed ∧ semicolons parsed.tokens = 0 ∧
      parsed.tokens.getLast?.any HostToken.isSemicolon = false ∧
      parsed.forms = [⟨.binding, "let x = 1 ;", ⟨1, 1⟩⟩] := by
  have hshown : (parse "let x = 1" ⟨1, 1⟩).toOption.map (fun parsed =>
      decide (semicolons parsed.tokens = 0 ∧
        parsed.tokens.getLast?.any HostToken.isSemicolon = false ∧
        parsed.forms = [⟨.binding, "let x = 1 ;", ⟨1, 1⟩⟩])) = some true := by
    decide +kernel
  obtain ⟨parsed, hparsed, hfacts⟩ := exists_of_toOption_parse hshown
  exact ⟨parsed, hparsed, of_decide_eq_true hfacts⟩

end PegCheck.Host
