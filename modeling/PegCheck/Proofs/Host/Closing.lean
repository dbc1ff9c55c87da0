import PegCheck.Proofs.Host.Frugal

/-!
# Readers that may end with a semicolon

An item or a statement has no semicolon outside of its groups, except perhaps for one at its end. If
such a semicolon is used up, it is the last tree that is written as well.

* `Closing`: one more semicolon is used up and written, or nothing is.
* `EndsWith`: every run of a reader is that of a phrase and then perhaps a semicolon.
* **`Closes`**: the same, whatever the answer of the reader is. Its instances follow the readers of
  which a reader is made.
-/

namespace PegCheck.Host.Reader

variable {α β : Type} {owed : List Tree}

/-- From one state to another a semicolon is used up and written, or the trees stay the same. -/
inductive Closing : Bool → ReaderState → ReaderState → Prop where
  | stay {s t : ReaderState} (hrest : s.rest = t.rest) (hwritten : t.written = s.written) :
      Closing false s t
  | semicolon {s t : ReaderState} {joint joint' : Bool} {place place' : Place}
      (hrest : s.rest = .punct ';' joint place :: t.rest)
      (hwritten : t.written = .punct ';' joint' place' :: s.written) : Closing true s t

/-- Every run of the reader is that of a phrase, followed by a semicolon or not. Its answer hands
over nothing, and tells as much of the semicolon as `post` says. -/
def EndsWith (owed : List Tree) (r : Reader α) (post : α → Bool → Prop) : Prop :=
  ∀ s a t, r s = .ok (a, t) → ∃ u used printed closed,
    Step .phrase owed [] s u used printed ∧ Closing closed u t ∧ post a closed

theorem EndsWith.of_frugal {r : Reader α} {post : α → Bool → Prop} (hr : Frugal .phrase owed r)
    (hpost : ∀ a, post a false) : EndsWith owed r post := by
  intro s a t h
  obtain ⟨used, printed, hstep⟩ := hr.balances s a t h
  exact ⟨t, used, printed, false, hstep, .stay rfl rfl, hpost a⟩

theorem EndsWith.mono {r : Reader α} {post post' : α → Bool → Prop} (hr : EndsWith owed r post)
    (hpost : ∀ a closed, post a closed → post' a closed) : EndsWith owed r post' := by
  intro s a t h
  obtain ⟨u, used, printed, closed, hstep, hclosing, ha⟩ := hr s a t h
  exact ⟨u, used, printed, closed, hstep, hclosing, hpost a closed ha⟩

/-- A phrase may go before. -/
theorem EndsWith.bind_balances {r : Reader α} {k : α → Reader β} {held : α → List Tree}
    {post : β → Bool → Prop} (hr : Balances .phrase owed r held)
    (hk : ∀ a, EndsWith (held a) (k a) post) : EndsWith owed (r >>= k) post := by
  intro s b v h
  obtain ⟨a, t, ha, hb⟩ := bind_eq_ok h
  obtain ⟨used, printed, hstep⟩ := hr s a t ha
  obtain ⟨u, used', printed', closed, hstep', hclosing, hpost⟩ := hk a t b v hb
  exact ⟨u, used ++ used', printed ++ printed', closed, hstep.trans hstep', hclosing, hpost⟩

theorem EndsWith.bind {r : Reader α} {k : α → Reader β} {post : β → Bool → Prop}
    (hr : Frugal .phrase [] r) (hk : ∀ a, EndsWith owed (k a) post) :
    EndsWith owed (r >>= k) post :=
  .bind_balances hr.passes hk

/-- Something that leaves the state as it is may come after. -/
theorem EndsWith.map {r : Reader α} {f : α → β} {post : α → Bool → Prop} {post' : β → Bool → Prop}
    (hr : EndsWith owed r post) (hpost : ∀ a closed, post a closed → post' (f a) closed) :
    EndsWith owed (r >>= fun a => pure (f a)) post' := by
  intro s b t h
  obtain ⟨a, t', ha, hb⟩ := bind_eq_ok h
  cases hb
  obtain ⟨u, used, printed, closed, hstep, hclosing, hpost'⟩ := hr s a t ha
  exact ⟨u, used, printed, closed, hstep, hclosing, hpost a closed hpost'⟩

theorem EndsWith.ite {c : Prop} [Decidable c] {r q : Reader α} {post : α → Bool → Prop}
    (hr : EndsWith owed r post) (hq : EndsWith owed q post) :
    EndsWith owed (if c then r else q) post := by
  split
  · exact hr
  · exact hq

theorem EndsWith.of_nil {r : Reader α} {post : α → Bool → Prop} (hr : EndsWith [] r post) :
    EndsWith owed r post := by
  intro s a t h
  obtain ⟨u, used, printed, closed, hstep, hclosing, hpost⟩ := hr s a t h
  refine ⟨u, used, printed, closed, hstep.weaken fun μ => ?_, hclosing, hpost⟩
  rw [Weight.trees_nil]
  omega

/-- A semicolon at the end is written whether the whole is written as it stands or not. -/
theorem EndsWith.keeping {r : Reader (α × Bool)} {post : α → Bool → Prop}
    (hr : EndsWith [] r fun x => post x.1) : EndsWith owed (keeping r) post := by
  refine .of_nil fun s a v h => ?_
  obtain ⟨kept, t, hread, rfl⟩ := keeping_eq_ok h
  obtain ⟨u, used, printed, closed, hstep, hclosing, hpost⟩ := hr _ _ _ hread
  have hrest : s.rest = used ++ u.rest := hstep.rest
  have hprinted : u.written = printed.reverse := by rw [hstep.written, List.append_nil]
  let shown := if kept then used else printed
  refine ⟨{ u with written := shown.reverse ++ s.written }, used, shown, closed,
    ⟨hrest, rfl, hstep.allows, fun μ => ?_⟩, ?_, hpost⟩
  · have := hstep.balance μ
    simp only [shown]
    split
    · rw [Weight.trees_nil]
    · exact this
  · cases hclosing with
    | stay hrest' hwritten =>
      rw [hrest'] at hrest
      refine .stay hrest' ?_
      rw [hwritten, hprinted, take_used hrest]
      simp only [shown]
      split <;> rfl
    | @semicolon _ _ joint joint' place place' hrest' hwritten =>
      rw [hrest', List.append_cons] at hrest
      rw [hwritten, hprinted, take_used hrest]
      cases kept with
      | true =>
        exact .semicolon hrest' (show _ = Tree.punct ';' joint place :: _ by simp [shown])
      | false =>
        exact .semicolon hrest' (show _ = Tree.punct ';' joint' place' :: _ by simp [shown])

/-- The trees that meet the expectation of a semicolon. -/
theorem split?_semicolon {trees taken rest : List Tree}
    (h : (mark ";").split? trees = some (taken, rest)) :
    ∃ joint place, trees = .punct ';' joint place :: rest ∧ taken = [.punct ';' false place] := by
  change Expected.splitMark? [';'] trees = _ at h
  unfold Expected.splitMark? at h
  split at h
  · rename_i c c' joint place rest' hc
    obtain rfl := List.singleton_inj.mp hc
    obtain ⟨rfl, heq⟩ := Option.ite_none_right_eq_some.mp h
    cases heq
    exact ⟨joint, place, rfl, rfl⟩
  · rename_i c cs c' place rest' hcs hc
    obtain ⟨-, rfl⟩ := List.cons.inj hc
    exact absurd rfl hcs
  · nomatch h

/-- A semicolon that is not accepted is not there. -/
theorem isSemicolon_of_split?_eq_none {first : Tree} {rest : List Tree}
    (h : (mark ";").split? (first :: rest) = none) : first.isSemicolon = false := by
  cases first with
  | punct c joint place =>
    refine beq_eq_false_iff_ne.mpr ?_
    rintro rfl
    nomatch h
  | _ => rfl

/-- **A semicolon is accepted** or the state stays as it is. -/
theorem endsWith_accept : EndsWith owed (accept (mark ";")) fun b closed => b = closed := by
  refine .of_nil fun s b t h => ?_
  rcases accept_eq_ok h with ⟨rfl, taken, rest, hsplit, rfl⟩ | ⟨rfl, -, rfl⟩
  · obtain ⟨joint, place, hrest, rfl⟩ := split?_semicolon hsplit
    exact ⟨s, [], [], true, Step.refl .phrase [] s, .semicolon hrest rfl, rfl⟩
  · exact ⟨t, [], [], false, Step.refl .phrase [] t, .stay rfl rfl, rfl⟩

/-- A reader that ends with a semicolon or without one, whatever it answers. -/
class Closes (owed : List Tree) (r : Reader α) : Prop where
  endsWith : EndsWith owed r fun _ _ => True

/-! ## One reader after another, and one of two -/

/-- A phrase ends without a semicolon. -/
instance (priority := low) closes_of_frugal {r : Reader α} [hr : Frugal .phrase owed r] :
    Closes owed r :=
  ⟨.of_frugal hr fun _ => trivial⟩

instance closes_bind {r : Reader α} {k : α → Reader β} [hr : Frugal .phrase owed r]
    [hk : ∀ a, Closes [] (k a)] : Closes owed (r >>= k) :=
  ⟨.bind_balances hr.balances fun a => (hk a).endsWith⟩

instance (priority := high) closes_captured_bind {r : Reader α} {k : α × List Tree → Reader β}
    [hr : Frugal .phrase [] r] [hk : ∀ a trees, Closes trees (k (a, trees))] :
    Closes owed (captured r >>= k) :=
  ⟨.of_nil (.bind_balances hr.balances.captured fun x => (hk x.1 x.2).endsWith)⟩

instance closes_map {r : Reader α} {f : α → β} [hr : Closes owed r] :
    Closes owed (r >>= fun a => pure (f a)) :=
  ⟨hr.endsWith.map fun _ _ h => h⟩

instance closes_ite {c : Prop} [Decidable c] {r q : Reader α} [hr : Closes owed r]
    [hq : Closes owed q] : Closes owed (if c then r else q) :=
  ⟨hr.endsWith.ite hq.endsWith⟩

instance closes_keeping {r : Reader (α × Bool)} [hr : Closes [] r] : Closes owed (keeping r) :=
  ⟨.keeping hr.endsWith⟩

/-! ## Semicolons -/

/-- After a semicolon nothing more is read. -/
instance closes_accept_ite {a : α} {r : Reader α} [hr : Closes owed r] :
    Closes owed (accept (mark ";") >>= fun b => if b = true then pure a else r) where
  endsWith := by
    intro s a' t h
    obtain ⟨b, t', haccept, hb⟩ := bind_eq_ok h
    cases b with
    | true =>
      cases hb
      obtain ⟨u, used, printed, closed, hstep, hclosing, -⟩ := endsWith_accept s true t haccept
      exact ⟨u, used, printed, closed, hstep, hclosing, trivial⟩
    | false =>
      rcases accept_eq_ok haccept with ⟨htrue, -⟩ | ⟨-, -, rfl⟩
      · nomatch htrue
      · exact hr.endsWith t' a' t hb

/-- Where a semicolon is expected, there is one. -/
theorem endsWith_expect : EndsWith owed (expect (mark ";")) fun _ closed => closed = true := by
  refine .of_nil fun s a t h => ?_
  unfold expect at h
  obtain ⟨accepted, t', haccept, hnext⟩ := bind_eq_ok h
  cases accepted with
  | true =>
    cases hnext
    obtain ⟨u, used, printed, closed, hstep, hclosing, hclosed⟩ := endsWith_accept s true t haccept
    exact ⟨u, used, printed, closed, hstep, hclosing, hclosed.symm⟩
  | false =>
    obtain ⟨trees, t'', _, hmissing⟩ := bind_eq_ok hnext
    nomatch hmissing

instance closes_expect : Closes owed (expect (mark ";")) :=
  ⟨endsWith_expect.mono fun _ _ _ => trivial⟩

/-- **What may end with a semicolon** is at least part of a sequence. -/
theorem Closes.frugal {r : Reader α} (hr : Closes owed r) : Frugal .sequence owed r where
  balances := by
    intro s a t h
    obtain ⟨u, used, printed, closed, hstep, hclosing, -⟩ := hr.endsWith s a t h
    have hbalance := hstep.balance
    cases hclosing with
    | stay hrest hwritten =>
      exact ⟨used, printed, hrest ▸ hstep.rest, hwritten ▸ hstep.written, trivial, hbalance⟩
    | @semicolon s t joint joint' place place' hrest hwritten =>
      refine ⟨used ++ [.punct ';' joint place], printed ++ [.punct ';' joint' place'], ?_, ?_,
        trivial, fun μ => ?_⟩
      · rw [hstep.rest, hrest, List.append_assoc, List.singleton_append]
      · rw [hwritten, hstep.written, List.reverse_append, List.reverse_singleton,
          List.singleton_append, List.cons_append]
      · have := hbalance μ
        simp only [Weight.trees_append, Weight.trees_cons, Weight.trees_nil, Weight.tree_punct] at *
        omega

end PegCheck.Host.Reader
