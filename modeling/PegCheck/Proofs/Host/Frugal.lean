import PegCheck.Proofs.Host.Weight
import PegCheck.Host.Phrase.Reader

/-!
# Readers write no more than they use up

A reader of trees uses trees up and writes trees. What it writes stems from what it has used up,
or from trees that an earlier reader has handed over to be written later. This is put as a balance
of weights, and it is put together along the way a reader is put together from others.

* `Step`: what a reader has used up and written between two states.
* `Balances`: every run of a reader is a step that balances, given the trees that it is to write and
  the trees that its answer hands over.
* `Balances.bind`: one reader after another; what the first one hands over is for the second one to
  write.
* **`Frugal`**: a reader whose answer hands over nothing. Its instances follow the readers of which
  a reader is made.
-/

namespace PegCheck.Host

/-- Is the tree a semicolon? -/
def Tree.isSemicolon : Tree → Bool
  | .punct c _ _ => c == ';'
  | _ => false

/-- What readers may use up: a phrase has no semicolon outside of its groups, a sequence may. -/
inductive Extent where
  | phrase
  | sequence

/-- May the trees be used up? -/
def Extent.Allows : Extent → List Tree → Prop
  | .phrase, used => ∀ t ∈ used, t.isSemicolon = false
  | .sequence, _ => True

theorem Extent.allows_append {e : Extent} {ts us : List Tree} (hts : e.Allows ts)
    (hus : e.Allows us) : e.Allows (ts ++ us) := by
  cases e with
  | phrase => exact List.forall_mem_append.mpr ⟨hts, hus⟩
  | sequence => trivial

theorem Extent.allows_nil (e : Extent) : e.Allows [] := by
  cases e with
  | phrase => nofun
  | sequence => trivial

theorem Extent.allows_of_phrase {e : Extent} {ts : List Tree} (h : phrase.Allows ts) :
    e.Allows ts := by
  cases e with
  | phrase => exact h
  | sequence => trivial

/-! ## Expectations -/

namespace Expected

/-- Is the expectation met without a semicolon? -/
def isInner : Expected → Bool
  | .mark text => !text.toList.contains ';'
  | _ => true

theorem splitMark?_eq_some {cs : List Char} {trees taken rest : List Tree}
    (h : splitMark? cs trees = some (taken, rest)) :
    ∃ used, trees = used ++ rest ∧ (∀ μ : Weight, μ.trees taken = μ.trees used) ∧
      (';' ∉ cs → Extent.phrase.Allows used) := by
  have halone (c : Char) (joint : Bool) (place : Place) (hc : c ≠ ';') :
      Extent.phrase.Allows [.punct c joint place] :=
    List.forall_mem_singleton.mpr (beq_eq_false_iff_ne.mpr hc)
  fun_induction splitMark? cs trees generalizing taken with
  | case1 c joint place rest =>
    cases h
    exact ⟨[.punct c joint place], rfl, fun _ => rfl,
      fun hc => halone c joint place fun heq => hc (heq ▸ List.mem_singleton_self c)⟩
  | case2 => cases h
  | case3 cs c place rest' _ ih =>
    obtain ⟨⟨taken', rest'⟩, hsplit, heq⟩ := Option.map_eq_some_iff.mp h
    cases heq
    obtain ⟨used, rfl, hweight, hallows⟩ := ih hsplit
    refine ⟨.punct c true place :: used, rfl, fun μ => ?_, fun hc => ?_⟩
    · rw [Weight.trees_cons, Weight.trees_cons, hweight]
    · rw [List.mem_cons, not_or] at hc
      exact Extent.allows_append (halone c true place (Ne.symm hc.1)) (hallows hc.2)
  | case4 => cases h
  | case5 => cases h

/-- **The trees that meet an expectation** weigh as much as those that are printed for them. -/
theorem split?_eq_some {e : Expected} {trees taken rest : List Tree}
    (h : e.split? trees = some (taken, rest)) :
    ∃ used, trees = used ++ rest ∧ (∀ μ : Weight, μ.trees taken = μ.trees used) ∧
      (e.isInner = true → Extent.phrase.Allows used) := by
  unfold split? at h
  split at h
  case h_10 text _ =>
    obtain ⟨used, heq, hweight, hallows⟩ := splitMark?_eq_some h
    refine ⟨used, heq, hweight, fun hinner => hallows ?_⟩
    simpa [isInner] using hinner
  case h_11 => nomatch h
  -- All other expectations are met by one tree or by two, and none of these is a semicolon.
  all_goals
    try split at h
    all_goals simp only [reduceCtorEq, Option.some.injEq, Prod.mk.injEq] at h
    all_goals
      obtain ⟨rfl, rfl⟩ := h
      subst_vars
      first
      | exact ⟨[_], rfl, fun _ => rfl, fun _ => List.forall_mem_singleton.mpr rfl⟩
      | exact ⟨[_, _], rfl, fun _ => rfl,
          fun _ => List.forall_mem_cons.mpr ⟨rfl, List.forall_mem_singleton.mpr rfl⟩⟩

end Expected

/-! ## Balances -/

namespace Reader

variable {α β : Type} {e : Extent} {owed : List Tree}

/-- A step from one state to another: trees are used up, and the trees that are written and those
that are handed over weigh no more than the ones that are used up and the ones that are owed. -/
structure Step (e : Extent) (owed held : List Tree) (s t : ReaderState) (used printed : List Tree) :
    Prop where
  rest : s.rest = used ++ t.rest
  written : t.written = printed.reverse ++ s.written
  allows : e.Allows used
  balance : ∀ μ : Weight, μ.trees held + μ.trees printed ≤ μ.trees owed + μ.trees used

/-- Every run of the reader is a step that balances. It is to write what is owed, and its answer
hands over what is held. -/
def Balances (e : Extent) (owed : List Tree) (r : Reader α) (held : α → List Tree) : Prop :=
  ∀ s a t, r s = .ok (a, t) → ∃ used printed, Step e owed (held a) s t used printed

theorem Step.refl (e : Extent) (owed : List Tree) (s : ReaderState) :
    Step e owed owed s s [] [] where
  rest := rfl
  written := rfl
  allows := e.allows_nil
  balance _ := Nat.le_refl _

theorem Step.trans {held held' : List Tree} {s t u : ReaderState}
    {used printed used' printed' : List Tree} (h : Step e owed held s t used printed)
    (h' : Step e held held' t u used' printed') :
    Step e owed held' s u (used ++ used') (printed ++ printed') where
  rest := by rw [h.rest, h'.rest, List.append_assoc]
  written := by rw [h'.written, h.written, List.reverse_append, List.append_assoc]
  allows := Extent.allows_append h.allows h'.allows
  balance μ := by
    have := h.balance μ
    have := h'.balance μ
    rw [Weight.trees_append, Weight.trees_append]
    omega

/-- What is owed may be handed over, in part or as a whole, or be forgotten. -/
theorem Step.weaken {held held' owed' : List Tree} {s t : ReaderState} {used printed : List Tree}
    (h : Step e owed held s t used printed)
    (hle : ∀ μ : Weight, μ.trees held' + μ.trees owed ≤ μ.trees held + μ.trees owed') :
    Step e owed' held' s t used printed where
  rest := h.rest
  written := h.written
  allows := h.allows
  balance μ := by
    have := h.balance μ
    have := hle μ
    omega

theorem Balances.weaken {r : Reader α} {held held' : α → List Tree} {owed' : List Tree}
    (h : Balances e owed r held)
    (hle : ∀ a, ∀ μ : Weight, μ.trees (held' a) + μ.trees owed ≤ μ.trees (held a) + μ.trees owed') :
    Balances e owed' r held' := by
  intro s a t hr
  obtain ⟨used, printed, hstep⟩ := h s a t hr
  exact ⟨used, printed, hstep.weaken (hle a)⟩

theorem bind_eq_ok {r : Reader α} {k : α → Reader β} {s u : ReaderState} {b : β}
    (h : (r >>= k) s = .ok (b, u)) : ∃ a t, r s = .ok (a, t) ∧ k a t = .ok (b, u) := by
  change (r s >>= fun x => k x.1 x.2) = .ok (b, u) at h
  cases hr : r s with
  | error fault => rw [hr] at h; nomatch h
  | ok x => rw [hr] at h; exact ⟨x.1, x.2, rfl, h⟩

/-- **One reader after another**: the second one is to write what the first one hands over. -/
theorem Balances.bind {r : Reader α} {k : α → Reader β} {held : α → List Tree}
    {held' : β → List Tree} (hr : Balances e owed r held)
    (hk : ∀ a, Balances e (held a) (k a) held') : Balances e owed (r >>= k) held' := by
  intro s b u h
  obtain ⟨a, t, ha, hb⟩ := bind_eq_ok h
  obtain ⟨used, printed, hstep⟩ := hr s a t ha
  obtain ⟨used', printed', hstep'⟩ := hk a t b u hb
  exact ⟨used ++ used', printed ++ printed', hstep.trans hstep'⟩

theorem Balances.pure (held : α → List Tree) (a : α) :
    Balances e (held a) (pure a : Reader α) held := by
  intro s a' t h
  cases h
  exact ⟨[], [], .refl e (held a) s⟩

/-- A reader that writes what is owed and hands over nothing. -/
class Frugal (e : Extent) (owed : List Tree) (r : Reader α) : Prop where
  balances : Balances e owed r fun _ => []

theorem Frugal.step {r : Reader α} [hr : Frugal e [] r] {s t : ReaderState} {a : α}
    (h : r s = .ok (a, t)) : ∃ used printed, Step e [] [] s t used printed :=
  hr.balances s a t h

theorem Frugal.of_nil {r : Reader α} (h : Frugal e [] r) : Frugal e owed r :=
  ⟨h.balances.weaken fun _ μ => by rw [Weight.trees_nil]; omega⟩

theorem Frugal.of_phrase {r : Reader α} (h : Frugal .phrase [] r) : Frugal e owed r := by
  refine .of_nil ⟨fun s a t hr => ?_⟩
  obtain ⟨used, printed, hstep⟩ := h.balances s a t hr
  exact ⟨used, printed, hstep.rest, hstep.written, Extent.allows_of_phrase hstep.allows,
    hstep.balance⟩

/-- A reader that leaves the state as it is. -/
theorem Frugal.of_looks {r : Reader α} (h : ∀ s a t, r s = .ok (a, t) → t = s) : Frugal e owed r :=
  .of_nil ⟨fun s a t hr => by
    obtain rfl := h s a t hr
    exact ⟨[], [], .refl e [] t⟩⟩

/-! ## One reader after another, and one of two -/

instance frugal_pure (a : α) : Frugal e owed (pure a : Reader α) :=
  .of_nil ⟨.pure (fun _ => []) a⟩

theorem Frugal.passes {r : Reader α} (hr : Frugal e [] r) : Balances e owed r fun _ => owed :=
  hr.balances.weaken fun _ μ => by rw [Weight.trees_nil, Nat.add_comm]

/-- What is owed is written by the second reader. -/
theorem Frugal.bind {r : Reader α} {k : α → Reader β} (hr : Frugal e [] r)
    (hk : ∀ a, Frugal e owed (k a)) : Frugal e owed (r >>= k) :=
  ⟨hr.passes.bind fun a => (hk a).balances⟩

instance frugal_bind {r : Reader α} {k : α → Reader β} [hr : Frugal e [] r]
    [hk : ∀ a, Frugal e owed (k a)] : Frugal e owed (r >>= k) :=
  hr.bind hk

/-- What is owed is written by the first reader. -/
instance (priority := low) frugal_bind_first {r : Reader α} {k : α → Reader β}
    [hr : Frugal e owed r] [hk : ∀ a, Frugal e [] (k a)] : Frugal e owed (r >>= k) where
  balances := hr.balances.bind fun a => (hk a).balances

instance frugal_ite {c : Prop} [Decidable c] {r q : Reader α} [hr : Frugal e owed r]
    [hq : Frugal e owed q] : Frugal e owed (if c then r else q) := by
  split
  · exact hr
  · exact hq

instance frugal_discard {r : Reader α} [hr : Frugal e owed r] : Frugal e owed (discard r) where
  balances := by
    intro s u t h
    have hbind : (r >>= fun _ => (pure () : Reader Unit)) s = .ok (u, t) := h
    obtain ⟨a, t', ha, hu⟩ := bind_eq_ok hbind
    cases hu
    exact hr.balances s a t ha

/-! ## Looking ahead and complaining -/

instance frugal_ahead : Frugal e owed ahead :=
  .of_looks fun s a t h => by cases h; rfl

instance frugal_place : Frugal e owed place :=
  .of_looks fun s a t h => by cases h; rfl

instance frugal_atEnd : Frugal e owed atEnd := by unfold atEnd; infer_instance

instance frugal_sees (x : Expected) : Frugal e owed (sees x) := by unfold sees; infer_instance

instance frugal_seesSecond (x : Expected) : Frugal e owed (seesSecond x) := by
  unfold seesSecond; infer_instance

instance frugal_seesThird (x : Expected) : Frugal e owed (seesThird x) := by
  unfold seesThird; infer_instance

instance frugal_seesAny (xs : List Expected) : Frugal e owed (seesAny xs) := by
  unfold seesAny; infer_instance

instance frugal_seesBut (x excluded : Expected) : Frugal e owed (seesBut x excluded) := by
  unfold seesBut; infer_instance

instance frugal_seesDot : Frugal e owed seesDot := by unfold seesDot; infer_instance

instance frugal_seesGroup : Frugal e owed seesGroup := by unfold seesGroup; infer_instance

instance frugal_throw (fault : Fault) : Frugal e owed (throw fault : Reader α) :=
  .of_looks fun _ _ _ h => nomatch h

instance frugal_failAt (place : Place) (c : Complaint) :
    Frugal e owed (failAt place c : Reader α) := by
  unfold failAt; infer_instance

/-- A reader that never answers can hand over anything. -/
theorem Balances.fail (c : Complaint) (held : α → List Tree) : Balances e owed (fail c) held := by
  intro s a t h
  obtain ⟨isEnd, s', _, h⟩ := bind_eq_ok h
  obtain ⟨place, s'', _, h⟩ := bind_eq_ok h
  nomatch h

instance frugal_fail (c : Complaint) : Frugal e owed (fail c : Reader α) := ⟨.fail c _⟩

instance frugal_refuse (xs : List Expected) : Frugal e owed (refuse xs : Reader α) := by
  unfold refuse; infer_instance

instance frugal_missing (x : Expected) : Frugal e owed (missing x : Reader α) := by
  unfold missing
  refine .bind inferInstance fun trees => ?_
  split <;> infer_instance

/-- Every run of the reader with the given trees ahead is a step that balances. -/
def StepsFrom (e : Extent) (trees : List Tree) (r : Reader α) : Prop :=
  ∀ s a t, s.rest = trees → r s = .ok (a, t) → ∃ used printed, Step e [] [] s t used printed

theorem StepsFrom.of_frugal {r : Reader α} {trees : List Tree} (h : Frugal e [] r) :
    StepsFrom e trees r :=
  fun s a t _ hr => h.balances s a t hr

/-- A reader that looks at the trees ahead is frugal if it is for each of them. -/
theorem Frugal.of_ahead {k : List Tree → Reader α} (h : ∀ trees, StepsFrom e trees (k trees)) :
    Frugal e owed (ahead >>= k) := by
  refine .of_nil ⟨fun s a t hr => ?_⟩
  obtain ⟨trees, s', hahead, hk⟩ := bind_eq_ok hr
  cases hahead
  exact h s.rest s a t rfl hk

/-! ## Using up trees -/

/-- Expectations that are met without a semicolon. -/
class Inner (x : Expected) : Prop where
  isInner : x.isInner = true

instance frugal_write : Frugal e owed (write owed) where
  balances := by
    intro s a t h
    cases h
    refine ⟨[], owed, rfl, rfl, e.allows_nil, fun μ => ?_⟩
    rw [Weight.trees_nil, Nat.zero_add, Nat.add_zero]

/-- What is owed need not be written. -/
theorem frugal_write_of {trees : List Tree} (h : ∀ μ : Weight, μ.trees trees ≤ μ.trees owed) :
    Frugal e owed (write trees) where
  balances := frugal_write.balances.weaken fun _ μ => by
    have := h μ
    omega

instance frugal_write_last (trees : List Tree) : Frugal e (owed ++ trees) (write trees) :=
  frugal_write_of fun μ => by
    rw [Weight.trees_append]
    omega

instance frugal_write_ite {c : Prop} [Decidable c] {trees trees' : List Tree}
    [ht : Frugal e owed (write trees)] [hf : Frugal e owed (write trees')] :
    Frugal e owed (write (if c then trees else trees')) := by
  split
  · exact ht
  · exact hf

/-- A reader that uses up nothing and writes only what weighs nothing. -/
def Supplies (r : Reader α) : Prop :=
  ∀ s a t, r s = .ok (a, t) → ∃ supplied, (∀ μ : Weight, μ.trees supplied = 0) ∧
    t = { s with written := supplied ++ s.written }

theorem supplies_pure (a : α) : Supplies (pure a : Reader α) := by
  intro s a' t h
  cases h
  exact ⟨[], fun _ => rfl, rfl⟩

theorem Supplies.bind {r : Reader α} {k : α → Reader β} (hr : Supplies r)
    (hk : ∀ a, Supplies (k a)) : Supplies (r >>= k) := by
  intro s b u h
  obtain ⟨a, t, ha, hb⟩ := bind_eq_ok h
  obtain ⟨supplied, hsupplied, rfl⟩ := hr s a t ha
  obtain ⟨supplied', hsupplied', rfl⟩ := hk a _ b u hb
  refine ⟨supplied' ++ supplied, fun μ => ?_, by rw [List.append_assoc]⟩
  rw [Weight.trees_append, hsupplied, hsupplied']

theorem supplies_write {trees : List Tree} (h : ∀ μ : Weight, μ.trees trees = 0) :
    Supplies (write trees) := by
  intro s a t hwrite
  cases hwrite
  exact ⟨trees.reverse, fun μ => by rw [Weight.trees_reverse, h], rfl⟩

theorem supplies_failAt (place : Place) (c : Complaint) : Supplies (failAt place c : Reader α) :=
  fun _ _ _ h => nomatch h

theorem Supplies.forIn {γ : Type} {xs : List γ} {f : γ → PUnit → Reader (ForInStep PUnit)}
    {u : PUnit} (hf : ∀ x u, Supplies (f x u)) : Supplies (forIn xs u f) := by
  induction xs generalizing u with
  | nil => exact supplies_pure u
  | cons x xs ih =>
    rw [List.forIn_cons]
    refine (hf x u).bind fun step => ?_
    cases step with
    | done u => exact supplies_pure u
    | yield u => exact ih

theorem Supplies.frugal {r : Reader α} (hr : Supplies r) : Frugal e owed r := by
  refine .of_nil ⟨fun s a t h => ?_⟩
  obtain ⟨supplied, hsupplied, rfl⟩ := hr s a t h
  refine ⟨[], supplied.reverse, rfl, by rw [List.reverse_reverse], e.allows_nil, fun μ => ?_⟩
  rw [Weight.trees_reverse, hsupplied, Weight.trees_nil]

theorem accept_eq_ok {x : Expected} {s t : ReaderState} {b : Bool} (h : accept x s = .ok (b, t)) :
    (b = true ∧ ∃ taken rest, x.split? s.rest = some (taken, rest) ∧
        t = { s with rest := rest, written := taken.reverse ++ s.written }) ∨
      (b = false ∧ x.split? s.rest = none ∧ t = s) := by
  unfold accept at h
  obtain ⟨trees, s', hahead, hmatch⟩ := bind_eq_ok h
  cases hahead
  cases hsplit : x.split? s.rest with
  | some split =>
    obtain ⟨taken, rest⟩ := split
    rw [hsplit] at hmatch
    cases hmatch
    exact .inl ⟨rfl, taken, rest, rfl, rfl⟩
  | none =>
    rw [hsplit] at hmatch
    cases hmatch
    exact .inr ⟨rfl, rfl, rfl⟩

theorem frugal_accept_of {x : Expected} (hx : x.isInner = true ∨ e = .sequence) :
    Frugal e owed (accept x) := by
  refine .of_nil ⟨fun s b t h => ?_⟩
  rcases accept_eq_ok h with ⟨-, taken, rest, hsplit, rfl⟩ | ⟨-, -, rfl⟩
  · obtain ⟨used, hused, hweight, hallows⟩ := Expected.split?_eq_some hsplit
    refine ⟨used, taken, hused, rfl, ?_, fun μ => ?_⟩
    · rcases hx with hinner | rfl
      · exact Extent.allows_of_phrase (hallows hinner)
      · trivial
    · rw [Weight.trees_nil, hweight]
  · exact ⟨[], [], .refl e [] t⟩

instance frugal_accept (x : Expected) [hx : Inner x] : Frugal e owed (accept x) :=
  frugal_accept_of (.inl hx.isInner)

instance frugal_accept_sequence (x : Expected) : Frugal .sequence owed (accept x) :=
  frugal_accept_of (.inr rfl)

instance frugal_acceptIf (allowed : Bool) (x : Expected) [Frugal e owed (accept x)] :
    Frugal e owed (acceptIf allowed x) := by
  unfold acceptIf; infer_instance

instance frugal_acceptAny_nil : Frugal e owed (acceptAny []) := by
  unfold acceptAny; infer_instance

instance frugal_acceptAny (x : Expected) (xs : List Expected) [Frugal e [] (accept x)]
    [Frugal e owed (acceptAny xs)] : Frugal e owed (acceptAny (x :: xs)) := by
  unfold acceptAny; infer_instance

instance frugal_expect (x : Expected) [Frugal e [] (accept x)] : Frugal e owed (expect x) := by
  unfold expect; infer_instance

instance frugal_allow (x : Expected) [Frugal e owed (accept x)] : Frugal e owed (allow x) := by
  unfold allow; infer_instance

/-- Trees may also be used up without being written. -/
instance frugal_drop (x : Expected) [hx : Inner x] : Frugal e owed (drop x) := by
  refine .of_nil ⟨fun s b t h => ?_⟩
  unfold drop at h
  obtain ⟨trees, s', hahead, hmatch⟩ := bind_eq_ok h
  cases hahead
  cases hsplit : x.split? s.rest with
  | some split =>
    obtain ⟨taken, rest⟩ := split
    rw [hsplit] at hmatch
    cases hmatch
    obtain ⟨used, hused, -, hallows⟩ := Expected.split?_eq_some hsplit
    exact ⟨used, [], hused, rfl, Extent.allows_of_phrase (hallows hx.isInner),
      fun μ => Nat.zero_le _⟩
  | none =>
    rw [hsplit] at hmatch
    cases hmatch
    exact ⟨[], [], .refl e [] s⟩

instance inner_ident : Inner .ident := ⟨rfl⟩
instance inner_anyWord : Inner .anyWord := ⟨rfl⟩
instance inner_lifetime : Inner .lifetime := ⟨rfl⟩
instance inner_literal : Inner .literal := ⟨rfl⟩
instance inner_string : Inner .string := ⟨rfl⟩
instance inner_group (d : Delimiter) : Inner (.group d) := ⟨rfl⟩
instance inner_word (text : String) : Inner (.word text) := ⟨rfl⟩

instance inner_and : Inner (mark "&") := ⟨by decide⟩
instance inner_arrow : Inner (mark "->") := ⟨by decide⟩
instance inner_at : Inner (mark "@") := ⟨by decide⟩
instance inner_bang : Inner (mark "!") := ⟨by decide⟩
instance inner_bar : Inner (mark "|") := ⟨by decide⟩
instance inner_colon : Inner (mark ":") := ⟨by decide⟩
instance inner_colons : Inner (mark "::") := ⟨by decide⟩
instance inner_comma : Inner (mark ",") := ⟨by decide⟩
instance inner_dot : Inner (mark ".") := ⟨by decide⟩
instance inner_dots : Inner (mark "..") := ⟨by decide⟩
instance inner_ellipsis : Inner (mark "...") := ⟨by decide⟩
instance inner_equal : Inner (mark "=") := ⟨by decide⟩
instance inner_equalDots : Inner (mark "..=") := ⟨by decide⟩
instance inner_fatArrow : Inner (mark "=>") := ⟨by decide⟩
instance inner_greater : Inner (mark ">") := ⟨by decide⟩
instance inner_hash : Inner (mark "#") := ⟨by decide⟩
instance inner_less : Inner (mark "<") := ⟨by decide⟩
instance inner_minus : Inner (mark "-") := ⟨by decide⟩
instance inner_plus : Inner (mark "+") := ⟨by decide⟩
instance inner_question : Inner (mark "?") := ⟨by decide⟩
instance inner_star : Inner (mark "*") := ⟨by decide⟩

instance frugal_wholeGroup : Frugal e owed wholeGroup := by
  unfold wholeGroup; dsimp only; infer_instance

/-! ## Readers of readers -/

/-- What is inside of a group may be a sequence. -/
instance frugal_enclosed (d : Delimiter) {r : Reader α} [hr : Frugal .sequence [] r] :
    Frugal e owed (enclosed d r) := by
  refine .of_nil ⟨fun s a t h => ?_⟩
  unfold enclosed at h
  split at h
  · rename_i d' content opened closed rest hrest
    split at h
    · subst d'
      cases hread : r ⟨content, [], closed, s.leftover⟩ with
      | error fault => rw [hread] at h; nomatch h
      | ok answer =>
        obtain ⟨a', u⟩ := answer
        rw [hread] at h
        cases h
        obtain ⟨used, printed, hstep⟩ := hr.balances _ _ _ hread
        have hcontent : content = used ++ u.rest := hstep.rest
        have hwritten : u.written = printed.reverse := by
          rw [hstep.written, List.append_nil]
        refine ⟨[.group d content opened closed], [.group d u.written.reverse opened closed],
          hrest, rfl, Extent.allows_of_phrase (List.forall_mem_singleton.mpr rfl), fun μ => ?_⟩
        have hle : μ.trees u.written.reverse ≤ μ.trees content := by
          have := hstep.balance μ
          rw [Weight.trees_nil] at this
          rw [hwritten, List.reverse_reverse, hcontent, Weight.trees_append]
          omega
        have := μ.tree_group_le d opened closed opened closed hle
        simpa using this
    · exact (frugal_missing (.group d)).balances s a t h
  · exact (frugal_missing (.group d)).balances s a t h

instance frugal_leave (unused : Option Fault) : Frugal e owed (leave unused) := by
  refine .of_nil ⟨fun s a t h => ?_⟩
  cases h
  have hstep := Step.refl e [] s
  exact ⟨[], [], hstep.rest, hstep.written, hstep.allows, hstep.balance⟩

instance frugal_inside (d : Delimiter) {r : Reader α} [Frugal .sequence [] r] :
    Frugal e owed (inside d r) := by
  unfold inside; infer_instance

theorem captured_eq_ok {r : Reader α} {s u : ReaderState} {x : α × List Tree}
    (h : captured r s = .ok (x, u)) :
    ∃ t, r { s with written := [] } = .ok (x.1, t) ∧ x.2 = t.written.reverse ∧
      u = { t with written := s.written } := by
  unfold captured at h
  cases hr : r { s with written := [] } with
  | error fault => rw [hr] at h; nomatch h
  | ok answer =>
    rw [hr] at h
    cases h
    exact ⟨answer.2, rfl, rfl, rfl⟩

theorem Balances.captured {r : Reader α} (h : Balances e [] r fun _ => []) :
    Balances e [] (captured r) Prod.snd := by
  intro s x u hx
  obtain ⟨t, hr, htrees, rfl⟩ := captured_eq_ok hx
  obtain ⟨used, printed, hstep⟩ := h _ _ _ hr
  refine ⟨used, [], hstep.rest, rfl, hstep.allows, fun μ => ?_⟩
  have := hstep.balance μ
  rw [htrees, hstep.written]
  simpa using this

/-- What is captured is owed by the reader that follows. -/
instance (priority := high) frugal_captured_bind {r : Reader α} {k : α × List Tree → Reader β}
    [hr : Frugal e [] r] [hk : ∀ a trees, Frugal e trees (k (a, trees))] :
    Frugal e owed (captured r >>= k) :=
  .of_nil ⟨hr.balances.captured.bind fun x => (hk x.1 x.2).balances⟩

/-- What is captured joins what is owed already. -/
theorem Frugal.captured {r : Reader α} (hr : Frugal e [] r) :
    Balances e owed (captured r) fun x => owed ++ x.2 :=
  hr.balances.captured.weaken fun x μ => by
    rw [Weight.trees_append, Weight.trees_nil]
    omega

theorem Frugal.bind_captured {r : Reader α} {k : α × List Tree → Reader β} (hr : Frugal e [] r)
    (hk : ∀ a trees, Frugal e (owed ++ trees) (k (a, trees))) :
    Frugal e owed (Reader.captured r >>= k) :=
  ⟨hr.captured.bind fun x => (hk x.1 x.2).balances⟩

instance frugal_captured {r : Reader α} [hr : Frugal e [] r] : Frugal e owed (captured r) :=
  .of_nil ⟨hr.balances.captured.weaken fun a μ => by simp⟩

theorem keeping_eq_ok {r : Reader (α × Bool)} {s u : ReaderState} {a : α}
    (h : keeping r s = .ok (a, u)) :
    ∃ kept t, r { s with written := [] } = .ok ((a, kept), t) ∧
      u = { t with
        written := (if kept then (s.rest.take (s.rest.length - t.rest.length)).reverse
          else t.written) ++ s.written } := by
  unfold keeping at h
  obtain ⟨before, s', hbefore, h⟩ := bind_eq_ok h
  cases hbefore
  obtain ⟨⟨⟨a', kept⟩, trees⟩, t, hcaptured, h⟩ := bind_eq_ok h
  obtain ⟨after, t', hafter, h⟩ := bind_eq_ok h
  cases hafter
  obtain ⟨_, t'', hwrite, h⟩ := bind_eq_ok h
  cases hwrite
  cases h
  obtain ⟨t, hr, rfl, rfl⟩ := captured_eq_ok hcaptured
  refine ⟨kept, t, hr, ?_⟩
  cases kept <;> simp

/-- What has been used up is what is no longer ahead. -/
theorem take_used {ts used rest : List Tree} (h : ts = used ++ rest) :
    ts.take (ts.length - rest.length) = used := by
  rw [h, List.length_append, Nat.add_sub_cancel, List.take_left]

/-- Trees that are written as they stand weigh what they weigh. -/
instance frugal_keeping {r : Reader (α × Bool)} [hr : Frugal e [] r] :
    Frugal e owed (keeping r) := by
  refine .of_nil ⟨fun s a u h => ?_⟩
  obtain ⟨kept, t, hread, rfl⟩ := keeping_eq_ok h
  obtain ⟨used, printed, hstep⟩ := hr.balances _ _ _ hread
  have hrest : s.rest = used ++ t.rest := hstep.rest
  cases kept with
  | true =>
    refine ⟨used, used, hrest, ?_, hstep.allows, fun μ => ?_⟩
    · rw [if_pos rfl, take_used hrest]
    · rw [Weight.trees_nil]
  | false =>
    refine ⟨used, printed, hrest, ?_, hstep.allows, fun μ => hstep.balance μ⟩
    rw [if_neg Bool.false_ne_true, hstep.written, List.append_nil]

instance frugal_asWritten {r : Reader α} [Frugal e [] r] : Frugal e owed (asWritten r) := by
  unfold asWritten; infer_instance

instance frugal_attempt {r : Reader α} [hr : Frugal e [] r] : Frugal e owed (attempt r) := by
  refine .of_nil ⟨fun s a t h => ?_⟩
  unfold attempt at h
  split at h
  · cases h
    exact hr.balances _ _ _ ‹_›
  · cases h
    exact ⟨[], [], .refl e [] s⟩

instance frugal_preview {r : Reader α} : Frugal e owed (preview r) :=
  .of_looks fun s a t h => by
    unfold preview at h
    split at h <;> cases h <;> rfl

/-! ## Repetition -/

/-- **Repetition**: what the value in hand holds is owed by the next repetition. -/
theorem Balances.repeatFor {step : α → Reader (Option α)} {held : α → List Tree}
    (h : ∀ a, Balances e (held a) (step a) fun a' => held (a'.getD a)) (trees : List Tree) (a : α) :
    Balances e (held a) (repeatFor trees step a) held := by
  induction trees generalizing a with
  | nil => exact (h a).bind fun a' => .pure held (a'.getD a)
  | cons tree trees ih =>
    refine (h a).bind fun a' => ?_
    cases a' with
    | none => exact .pure held a
    | some a' => exact ih a'

theorem Balances.iterate {step : α → Reader (Option α)} {held : α → List Tree}
    (h : ∀ a, Balances e (held a) (step a) fun a' => held (a'.getD a)) (a : α) :
    Balances e (held a) (iterate step a) held := by
  exact frugal_ahead.passes.bind fun trees => .repeatFor h trees a

/-- What one repetition preserves, all of them preserve. -/
theorem iterate_induction {step : α → Reader (Option α)} {inv : α → ReaderState → Prop}
    (hstep : ∀ a s a' t, inv a s → step a s = .ok (a', t) → inv (a'.getD a) t) {a b : α}
    {s t : ReaderState} (ha : inv a s) (h : iterate step a s = .ok (b, t)) : inv b t := by
  have hrepeat (trees : List Tree) (a : α) (s : ReaderState) (ha : inv a s)
      (h : repeatFor trees step a s = .ok (b, t)) : inv b t := by
    induction trees generalizing a s with
    | nil =>
      obtain ⟨a', u, hread, hpure⟩ := bind_eq_ok h
      cases hpure
      exact hstep a s a' t ha hread
    | cons tree trees ih =>
      obtain ⟨a', u, hread, hnext⟩ := bind_eq_ok h
      have hu := hstep a s a' u ha hread
      cases a' with
      | none =>
        cases hnext
        exact hu
      | some a' => exact ih a' u hu hnext
  obtain ⟨trees, u, hahead, hread⟩ := bind_eq_ok h
  cases hahead
  exact hrepeat s.rest a s ha hread

instance frugal_iterate {step : α → Reader (Option α)} {a : α} [hstep : ∀ a, Frugal e [] (step a)] :
    Frugal e owed (iterate step a) :=
  .of_nil ⟨.iterate (fun a => (hstep a).balances) a⟩

instance frugal_repeatWhile {r : Reader Bool} [Frugal e [] r] : Frugal e owed (repeatWhile r) := by
  unfold repeatWhile; infer_instance

instance frugal_untilEnd {r : Reader Unit} [Frugal e [] r] : Frugal e owed (untilEnd r) := by
  unfold untilEnd; infer_instance

section Separated

variable {stop : Reader Bool} {separator : Expected} {element : Reader Unit}
  [Frugal e [] stop] [Frugal e [] (accept separator)] [Frugal e [] element]

instance frugal_separatedUntil : Frugal e owed (separatedUntil stop separator element) := by
  unfold separatedUntil; infer_instance

instance frugal_separatedWhile : Frugal e owed (separatedWhile stop separator element) := by
  unfold separatedWhile; infer_instance

instance frugal_commaSeparated : Frugal e owed (commaSeparated element) := by
  unfold commaSeparated; infer_instance

end Separated

end Reader

end PegCheck.Host
