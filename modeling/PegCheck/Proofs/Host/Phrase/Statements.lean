import PegCheck.Proofs.Host.Phrase.Items
import PegCheck.Host.Phrase.Language

/-!
# The statements of a snippet

A list of statements is read from left to right. Each statement but a lone semicolon is a phrase and
perhaps a semicolon; what is kept of it is what was written for the phrase, and the semicolon. A
binding always ends with a semicolon. Bindings and items never say that they do, so it is not taken
off.

* `endsWith_statement`: one statement.
* `ReadUpTo`: statements and the trees that they are read from.
* `readUpTo_statements`: the statements up to the end of a group.
* `areFrugal_phrases`: the knot. The readers of all phrases are frugal, to any depth.
* **`readUpTo_of_read`**: the statements of a snippet.
-/

-- A reader with many parts is frugal by as many instances.
set_option synthInstance.maxSize 1000000000

namespace PegCheck.Host

open Reader

namespace Phrase

variable {e : Extent} {owed : List Tree} (p : Phrases) [hp : p.AreFrugal]

/-! ## Which statement begins -/

instance frugal_afterPlainPath : Frugal e owed afterPlainPath := by
  unfold afterPlainPath; infer_instance

instance frugal_seesNamedMacro : Frugal e owed seesNamedMacro := by
  unfold seesNamedMacro; infer_instance

instance frugal_seesMacroStatement : Frugal e owed seesMacroStatement := by
  unfold seesMacroStatement; infer_instance

instance frugal_seesStaticItem : Frugal e owed seesStaticItem := by
  unfold seesStaticItem; infer_instance

instance frugal_seesConstItem : Frugal e owed seesConstItem := by
  unfold seesConstItem; infer_instance

instance frugal_seesItem : Frugal e owed seesItem := by
  unfold seesItem; infer_instance

/-! ## One statement -/

theorem endsWith_bindingTail :
    EndsWith owed (bindingTail p) fun _ closed => closed = true := by
  unfold bindingTail
  dsimp only
  refine .bind inferInstance fun isTyped => .ite (.bind inferInstance fun _ => ?_) ?_
  -- The value comes after a type or without one.
  all_goals
    refine .bind inferInstance fun hasValue => .ite (.of_nil ?_) endsWith_expect
    refine .bind_balances (frugal_givenExpression p true).balances.captured fun value => ?_
    refine .bind_balances frugal_write.balances fun _ => .bind inferInstance fun hasElse => ?_
    exact .ite (.bind inferInstance fun _ => endsWith_expect) endsWith_expect

/-- Whether a statement ends with a semicolon, and whether it says so. A binding always does, and
neither a binding nor an item says so. -/
def StatementClass.Fits (c : StatementClass) (closed : Bool) : Prop :=
  match c.kind with
  | .binding => closed = true ∧ c.terminated = false
  | .item => c.terminated = false
  | .expression | .macroCall => c.terminated = closed

/-- The attributes before the expression are still to be written. -/
theorem endsWith_expressionStatement (attributes : List Tree) :
    EndsWith attributes (expressionStatement p attributes) StatementClass.Fits := by
  unfold expressionStatement
  refine .bind_balances (Frugal.captured inferInstance) fun result => ?_
  have hwrite : Frugal .phrase (attributes ++ result.2)
      (write (if result.1.isKept then result.2 else attributes ++ result.2)) := inferInstance
  refine .bind_balances hwrite.balances fun _ => ?_
  cases result.1 with
  | macroCall braced =>
    refine endsWith_accept.map fun terminated closed hclosed => ?_
    unfold StatementClass.Fits
    cases terminated <;> cases braced <;> exact hclosed
  | _ => exact endsWith_accept.map fun terminated closed hclosed => hclosed

theorem endsWith_statement : EndsWith [] (statement p) StatementClass.Fits := by
  unfold statement
  refine .keeping (.bind_balances (frugal_outerAttributes p).balances.captured fun attributes => ?_)
  refine .bind inferInstance fun isMacro => .ite ?_ ?_
  · refine .bind_balances frugal_write.balances fun _ => ?_
    refine .bind inferInstance fun _ => .bind inferInstance fun _ => ?_
    exact endsWith_accept.map fun terminated closed hclosed => hclosed
  · refine .bind inferInstance fun isBinding => .ite ?_ ?_
    · refine .bind_balances frugal_write.balances fun _ => .bind inferInstance fun _ => ?_
      refine .bind inferInstance fun _ => ?_
      exact (endsWith_bindingTail p).map fun _ _ hclosed => ⟨hclosed, rfl⟩
    · refine .bind inferInstance fun isItem => .ite ?_ ?_
      · refine .bind_balances frugal_write.balances fun _ => ?_
        exact (closes_itemAfterAttributes p).endsWith.map fun _ _ _ => rfl
      · exact (endsWith_expressionStatement p attributes.2).map fun _ _ hfits => hfits

end Phrase

/-! ## Statements and their trees -/

/-- The trees at the end of a statement: a semicolon as it stands and as it is written, or nothing.
-/
inductive Ending : Bool → List Tree → List Tree → Prop where
  | none : Ending false [] []
  | semicolon (joint joint' : Bool) (place place' : Place) :
      Ending true [.punct ';' joint place] [.punct ';' joint' place']

/-- What a statement that is no lone semicolon may be read from: a phrase and perhaps a semicolon.
-/
structure Statement.IsReadFrom (s : Statement) (phrase ending : List Tree) : Prop where
  inner : Extent.phrase.Allows phrase
  parts : ∃ printed ending' closed, s.trees = printed ++ ending' ∧
    (∀ μ : Weight, μ.trees printed ≤ μ.trees phrase) ∧ Ending closed ending ending' ∧
      ∃ c : Phrase.StatementClass,
        s.kind = some c.kind ∧ s.terminated = c.terminated ∧ c.Fits closed

/-- The statements are read from the trees, from left to right, up to the final trees. -/
inductive ReadUpTo (final : List Tree) : List Tree → List Statement → Prop where
  | done : ReadUpTo final final []
  | lone (joint joint' : Bool) (place place' : Place) {rest : List Tree} {later : List Statement}
      (hlater : ReadUpTo final rest later) :
      ReadUpTo final (.punct ';' joint place :: rest)
        (⟨none, [.punct ';' joint' place'], true⟩ :: later)
  | cons {s : Statement} {first : Tree} {phrase ending rest rest' : List Tree}
      {later : List Statement} (hs : s.IsReadFrom phrase ending)
      (hbegins : phrase ++ (ending ++ rest) = first :: rest') (hfirst : first.isSemicolon = false)
      (hlater : ReadUpTo final rest later) :
      ReadUpTo final (phrase ++ (ending ++ rest)) (s :: later)

theorem Ending.weight {closed : Bool} {ending ending' : List Tree}
    (h : Ending closed ending ending') (μ : Weight) : μ.trees ending' = μ.trees ending := by
  cases h <;> rfl

theorem Statement.IsReadFrom.weight_le {s : Statement} {phrase ending : List Tree}
    (h : s.IsReadFrom phrase ending) (μ : Weight) :
    μ.trees s.trees ≤ μ.trees (phrase ++ ending) := by
  obtain ⟨printed, ending', closed, hparts, hle, hending, -⟩ := h.parts
  rw [hparts, μ.trees_append, μ.trees_append, hending.weight μ]
  exact Nat.add_le_add_right (hle μ) _

theorem Statement.IsReadFrom.exists_kind {s : Statement} {phrase ending : List Tree}
    (h : s.IsReadFrom phrase ending) : ∃ kind, s.kind = some kind := by
  obtain ⟨printed, ending', closed, -, -, -, c, hkind, -⟩ := h.parts
  exact ⟨c.kind, hkind⟩

/-- Statements weigh no more than the trees that they are read from. -/
theorem ReadUpTo.exists_used {final trees : List Tree} {read : List Statement}
    (h : ReadUpTo final trees read) :
    ∃ used, trees = used ++ final ∧
      ∀ μ : Weight, μ.trees (read.flatMap (·.trees)) ≤ μ.trees used := by
  induction h with
  | done => exact ⟨[], rfl, fun _ => Nat.le_refl _⟩
  | lone joint joint' place place' _ ih =>
    obtain ⟨used, rfl, hle⟩ := ih
    refine ⟨.punct ';' joint place :: used, rfl, fun μ => ?_⟩
    rw [List.flatMap_cons, List.singleton_append, μ.trees_cons, μ.trees_cons]
    exact Nat.add_le_add_left (hle μ) _
  | @cons s _ phrase ending _ _ later hs _ _ _ ih =>
    obtain ⟨used, rfl, hle⟩ := ih
    refine ⟨phrase ++ ending ++ used, by simp only [List.append_assoc], fun μ => ?_⟩
    rw [List.flatMap_cons, μ.trees_append, μ.trees_append]
    exact Nat.add_le_add (hs.weight_le μ) (hle μ)

namespace Phrase

variable (p : Phrases) [hp : p.AreFrugal]

theorem isReadFrom_of_captured {s t : ReaderState} {c : StatementClass} {trees : List Tree}
    (h : captured (statement p) s = .ok ((c, trees), t)) :
    ∃ phrase ending, s.rest = phrase ++ (ending ++ t.rest) ∧ t.written = s.written ∧
      Statement.IsReadFrom ⟨some c.kind, trees, c.terminated⟩ phrase ending := by
  obtain ⟨t, hread, rfl, rfl⟩ := captured_eq_ok h
  obtain ⟨u, used, printed, closed, hstep, hclosing, hfits⟩ := endsWith_statement p _ _ _ hread
  have hrest : s.rest = used ++ u.rest := hstep.rest
  have hwritten : u.written = printed.reverse := by rw [hstep.written, List.append_nil]
  have hweight (μ : Weight) : μ.trees printed ≤ μ.trees used := by
    have := hstep.balance μ
    rw [Weight.trees_nil] at this
    omega
  cases hclosing with
  | stay hrest' hwritten' =>
    refine ⟨used, [], by rw [hrest, hrest', List.nil_append], rfl, hstep.allows, printed, [], false,
      ?_, hweight, .none, c, rfl, rfl, hfits⟩
    rw [hwritten', hwritten, List.reverse_reverse, List.append_nil]
  | @semicolon _ _ joint joint' place place' hrest' hwritten' =>
    refine ⟨used, [.punct ';' joint place], by rw [hrest, hrest', List.singleton_append], rfl,
      hstep.allows, printed, [.punct ';' joint' place'], true, ?_, hweight,
      .semicolon joint joint' place place', c, rfl, rfl, hfits⟩
    rw [hwritten', hwritten, List.reverse_cons, List.reverse_reverse]

theorem captured_semicolon {s t : ReaderState} {b : Bool} {trees : List Tree}
    (h : captured (accept (mark ";")) s = .ok ((b, trees), t)) :
    (b = true ∧ ∃ joint place, s.rest = .punct ';' joint place :: t.rest ∧
        trees = [.punct ';' false place] ∧ t.written = s.written) ∨
      (b = false ∧ t = s ∧ (mark ";").split? s.rest = none) := by
  obtain ⟨t, haccept, rfl, rfl⟩ := captured_eq_ok h
  rcases accept_eq_ok haccept with ⟨rfl, taken, rest, hsplit, rfl⟩ | ⟨rfl, hsplit, rfl⟩
  · obtain ⟨joint, place, hrest, rfl⟩ := split?_semicolon hsplit
    exact .inl ⟨rfl, joint, place, hrest, rfl, rfl⟩
  · exact .inr ⟨rfl, rfl, hsplit⟩

/-- **The statements up to the end of a group**, or up to where they end. They write nothing. -/
theorem readUpTo_statements {s t : ReaderState} {read : List Statement}
    (h : statements p s = .ok (read, t)) :
    t.written = s.written ∧ ReadUpTo t.rest s.rest read := by
  unfold statements at h
  obtain ⟨read', u, hiterate, hreverse⟩ := bind_eq_ok h
  cases hreverse
  -- Whatever is read from the trees ahead goes after what has been read, which is in reverse order.
  let inv (read : List Statement) (u : ReaderState) : Prop :=
    u.written = s.written ∧ ∀ final later, ReadUpTo final u.rest later →
      ReadUpTo final s.rest (read.reverse ++ later)
  have hstart : inv [] s := ⟨rfl, fun _ _ h => h⟩
  have hinv : inv read' t := by
    refine iterate_induction (fun read u o v hread hstep => ?_) hstart hiterate
    obtain ⟨hwritten, hearlier⟩ := hread
    obtain ⟨⟨isLone, trees⟩, u', hlone, hnext⟩ := bind_eq_ok hstep
    rcases captured_semicolon hlone with
      ⟨rfl, joint, place, hrest, rfl, hsame⟩ | ⟨rfl, rfl, hsplit⟩
    · cases hnext
      refine ⟨hsame.trans hwritten, fun final later hlater => ?_⟩
      have hmore := hearlier final _ (hrest ▸ ReadUpTo.lone joint false place place hlater)
      simpa using hmore
    · obtain ⟨isEnd, u'', hend, hnext⟩ := bind_eq_ok hnext
      cases hend
      cases hrest : u'.rest with
      | nil =>
        rw [hrest] at hnext
        cases hnext
        exact ⟨hwritten, hearlier⟩
      | cons first rest =>
        rw [hrest] at hnext hsplit
        obtain ⟨⟨c, trees⟩, w, hcaptured, hnext⟩ := bind_eq_ok hnext
        obtain ⟨phrase, ending, hphrase, hsame, hread⟩ := isReadFrom_of_captured p hcaptured
        obtain ⟨isEnd, w', hend, hnext⟩ := bind_eq_ok hnext
        cases hend
        by_cases hmore : (c.complete || w.rest.isEmpty) = true
        · rw [if_pos hmore] at hnext
          cases hnext
          refine ⟨hsame.trans hwritten, fun final later hlater => ?_⟩
          have hbegins := hphrase.symm.trans hrest
          have hcons := ReadUpTo.cons hread hbegins (isSemicolon_of_split?_eq_none hsplit) hlater
          have hmore' := hearlier final _ (hphrase ▸ hcons)
          simpa using hmore'
        · rw [if_neg hmore] at hnext
          nomatch hnext
  have hall := hinv.2 t.rest [] .done
  rw [List.append_nil] at hall
  exact ⟨hinv.1, hall⟩

/-- The statements of a block weigh no more than its content. -/
theorem balances_statements :
    Balances .sequence [] (statements p) fun read => read.flatMap (·.trees) := by
  intro s read t h
  obtain ⟨hwritten, hread⟩ := readUpTo_statements p h
  obtain ⟨used, hrest, hle⟩ := hread.exists_used
  refine ⟨used, [], hrest, hwritten, trivial, fun μ => ?_⟩
  rw [Weight.trees_nil, Nat.add_zero, Nat.zero_add]
  exact hle μ

/-! ## To any depth -/

/-- **The knot**: the readers of all phrases write no more than they use up. -/
theorem areFrugal_phrases (n : Nat) : (phrases n).AreFrugal := by
  induction n with
  | zero =>
    unfold phrases
    have hfail {α : Type} {e : Extent} : Frugal e [] (fail .depth : Reader α) := inferInstance
    exact ⟨fun _ => hfail, fun _ => hfail, fun _ _ _ => hfail, hfail, fun _ => hfail,
      fun _ _ => hfail, hfail, .fail .depth _, hfail, hfail, fun _ => hfail⟩
  | succ n ih =>
    unfold phrases
    exact
      { expression := fun structs => frugal_expression (phrases n) structs
        unary := fun structs => frugal_unary (phrases n) structs
        climb := fun structs base left => frugal_climb (phrases n) structs base left
        statementExpression := frugal_statementExpression (phrases n)
        type := fun allowSum => frugal_typeExpr (phrases n) allowSum
        bound := fun allowCapture allowConst => frugal_bound (phrases n) allowCapture allowConst
        pattern := frugal_pattern (phrases n)
        statements := balances_statements (phrases n)
        item := (closes_item (phrases n)).frugal
        namedFields := frugal_namedFields (phrases n)
        importTree := fun allowRoot => frugal_importTree (phrases n) allowRoot }

/-- **The statements of a snippet** are read from all of its trees. -/
theorem readUpTo_of_read {trees : List Tree} {statements : List Statement}
    (h : Phrase.read trees = .ok statements) : ReadUpTo [] trees statements := by
  have := areFrugal_phrases (depthBound trees)
  unfold Phrase.read at h
  split at h
  · nomatch h
  · nomatch h
  · nomatch h
  · cases h
    exact (readUpTo_statements (phrases (depthBound trees)) ‹_›).2

end Phrase

end PegCheck.Host
