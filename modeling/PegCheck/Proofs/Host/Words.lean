import PegCheck.Host.Words
import PegCheck.Proofs.Text.Lines
import Mathlib.Data.List.TakeWhile

/-!
# Runs of word characters

A text is cut into runs of word characters with gaps before, between and after them. The runs that a
front end for plain words makes its tokens are those: it walks through the text with at most one
word open, and closes it where the run ends.

* `IsRun`: a run of word characters that is not part of a longer one.
* `Cuts`: a text cut into such runs and gaps, each run with its place; `cuts_runs`: the walk cuts
  the text so.
* **`Cuts.mem_iff`**: the runs of a text that is cut are all runs that there are;
  `Cuts.pairwise`: they are in order.
* **`mem_tokens`**: the tokens of a source are the runs before its first number sign.
-/

namespace PegCheck.Words

open Text (isWordChar)

/-- A word between a first and a last part of a text, all of whose characters are word characters,
while those next to it are none. -/
structure IsRun (before word after : List Char) : Prop where
  ne_nil : word ≠ []
  isWord : ∀ c ∈ word, isWordChar c = true
  before_gap : ∀ c ∈ before.getLast?, isWordChar c = false
  after_gap : ∀ c ∈ after.head?, isWordChar c = false

/-- A text that begins at `place` is the words at their places, and gaps without a word character.
-/
inductive Cuts : Place → List Char → List (Place × List Char) → Prop where
  | gap {place : Place} {gap : List Char} (hgap : ∀ c ∈ gap, isWordChar c = false) :
      Cuts place gap []
  | word {place : Place} {gap word rest : List Char} {words : List (Place × List Char)}
      (hgap : ∀ c ∈ gap, isWordChar c = false) (hne : word ≠ [])
      (hword : ∀ c ∈ word, isWordChar c = true) (hrest : ∀ c ∈ rest.head?, isWordChar c = false)
      (h : Cuts ((place.after gap).after word) rest words) :
      Cuts place (gap ++ (word ++ rest)) ((place.after gap, word) :: words)

/-! ## The walk -/

/-- A word that is open ends where the word characters end. -/
theorem runs_some (place p : Place) (word text : List Char) :
    runs place (some (p, word)) text =
      (p, word ++ text.takeWhile isWordChar) ::
        runs (place.after (text.takeWhile isWordChar)) none (text.dropWhile isWordChar) := by
  induction text generalizing place word with
  | nil => simp [runs]
  | cons c cs ih =>
    by_cases hc : isWordChar c = true
    · rw [runs, if_pos hc, List.takeWhile_cons_of_pos hc, List.dropWhile_cons_of_pos hc]
      dsimp only
      rw [ih, List.append_assoc]
      rfl
    · rw [runs, if_neg hc, List.takeWhile_cons_of_neg hc, List.dropWhile_cons_of_neg hc,
        List.append_nil, Place.after_nil, runs, if_neg hc]
      rfl

/-- One more character in front of a first gap. -/
theorem Cuts.cons {place : Place} {c : Char} {text : List Char} {words : List (Place × List Char)}
    (hc : isWordChar c = false) (h : Cuts (place.advance c) text words) :
    Cuts place (c :: text) words := by
  cases h with
  | gap hgap => exact .gap (List.forall_mem_cons.mpr ⟨hc, hgap⟩)
  | @word _ gap word rest words hgap hne hword hrest h =>
    have hgap : ∀ d ∈ c :: gap, isWordChar d = false := List.forall_mem_cons.mpr ⟨hc, hgap⟩
    exact .word hgap hne hword hrest h

/-- **The walk cuts the text** into the maximal runs of word characters. -/
theorem cuts_runs (place : Place) :
    ∀ text : List Char, Cuts place text (runs place none text)
  | [] => .gap nofun
  | c :: cs => by
    by_cases hc : isWordChar c = true
    · have hne : c :: cs.takeWhile isWordChar ≠ [] := List.cons_ne_nil _ _
      have hword : ∀ d ∈ c :: cs.takeWhile isWordChar, isWordChar d = true :=
        List.forall_mem_cons.mpr ⟨hc, fun d hd => List.mem_takeWhile_imp hd⟩
      have hrest : ∀ d ∈ (cs.dropWhile isWordChar).head?, isWordChar d = false := dropWhile_stop
      have hgap : ∀ d ∈ ([] : List Char), isWordChar d = false := nofun
      have hcut := Cuts.word hgap hne hword hrest (cuts_runs (place.after _) _)
      rw [List.nil_append, List.cons_append, List.takeWhile_append_dropWhile] at hcut
      rw [runs, if_pos hc]
      exact runs_some (place.advance c) place [c] cs ▸ hcut
    · rw [Bool.not_eq_true] at hc
      rw [runs, hc]
      exact (cuts_runs (place.advance c) cs).cons hc
termination_by text => text.length
decreasing_by
  · exact Nat.lt_succ_of_le (List.dropWhile_sublist _).length_le
  · exact Nat.lt_succ_self _

/-! ## All runs -/

namespace IsRun

variable {before word after before' word' after' more : List Char}

theorem takeWhile_eq (h : IsRun before word after) :
    (word ++ after).takeWhile isWordChar = word := takeWhile_append_stop h.isWord h.after_gap

/-- A word character does not stand right before a run. -/
theorem not_word_before (h : IsRun before word after) {c : Char} (hc : isWordChar c = true) :
    before.getLast? ≠ some c := fun hlast => by
  rw [h.before_gap c hlast] at hc
  nomatch hc

/-- Of two runs in a text, of which the one begins no later than the other, the other begins after a
gap behind the first, unless they are the same. -/
theorem same_or_apart (h : IsRun before word after) (h' : IsRun (before ++ more) word' after')
    (heq : word ++ after = more ++ (word' ++ after')) :
    (more = [] ∧ word = word' ∧ after = after') ∨
      ∃ gap, gap ≠ [] ∧ more = word ++ gap ∧ after = gap ++ (word' ++ after') := by
  rcases more.eq_nil_or_concat with rfl | ⟨start, c, rfl⟩
  · have hword : word = word' := by rw [← h.takeWhile_eq, heq, List.nil_append, h'.takeWhile_eq]
    subst hword
    exact .inl ⟨rfl, rfl, List.append_cancel_left heq⟩
  · rw [List.concat_eq_append] at heq h' ⊢
    have hlast : (before ++ (start ++ [c])).getLast? = some c := by simp
    rcases List.append_eq_append_iff.mp heq with ⟨gap, hmore, hafter⟩ | ⟨tail, hword, -⟩
    · refine .inr ⟨gap, ?_, hmore, hafter⟩
      -- Without a gap the first run would go on into the second.
      rintro rfl
      have hc : c ∈ word := by
        rw [List.append_nil] at hmore
        exact hmore ▸ List.mem_append_right start List.mem_cons_self
      exact h'.not_word_before (h.isWord c hc) hlast
    · have hc : c ∈ word := by simp [hword]
      exact absurd hlast (h'.not_word_before (h.isWord c hc))

/-- A run is not part of a gap. -/
theorem not_gap (h : IsRun before word after) {text : List Char} (hsub : word ⊆ text)
    (hgap : ∀ c ∈ text, isWordChar c = false) : False := by
  obtain ⟨c, rest, rfl⟩ := List.exists_cons_of_ne_nil h.ne_nil
  have hc := hgap c (hsub List.mem_cons_self)
  rw [h.isWord c List.mem_cons_self] at hc
  nomatch hc

/-- A run behind a gap is one whatever stands before that gap. -/
theorem append_iff {gap : List Char} (hgap : gap ≠ []) :
    IsRun (before ++ gap) word after ↔ IsRun gap word after := by
  have hlast : (before ++ gap).getLast? = gap.getLast? := by
    rw [List.getLast?_append, Option.or_of_isSome]
    simpa using hgap
  constructor
  · exact fun h => ⟨h.ne_nil, h.isWord, hlast ▸ h.before_gap, h.after_gap⟩
  · exact fun h => ⟨h.ne_nil, h.isWord, hlast ▸ h.before_gap, h.after_gap⟩

end IsRun

namespace Cuts

variable {place p : Place} {text w : List Char} {words : List (Place × List Char)}

/-- **The words of a text that is cut into runs are all its runs.** -/
theorem mem_iff (h : Cuts place text words) :
    (p, w) ∈ words ↔
      ∃ before after, text = before ++ (w ++ after) ∧ IsRun before w after ∧
        p = place.after before := by
  induction h generalizing p w with
  | gap hgap =>
    refine iff_of_false List.not_mem_nil ?_
    rintro ⟨before, after, rfl, hrun, -⟩
    exact hrun.not_gap (by simp) hgap
  | @word place gap word rest words hgap hne hword hrest _ ih =>
    have hfirst : IsRun gap word rest :=
      ⟨hne, hword, fun c hc => hgap c (List.mem_of_mem_getLast? hc), hrest⟩
    rw [List.mem_cons]
    constructor
    · rintro (heq | hmem)
      · obtain ⟨rfl, rfl⟩ := Prod.mk.inj heq
        exact ⟨gap, rest, rfl, hfirst, rfl⟩
      · obtain ⟨before, after, rfl, hrun, rfl⟩ := ih.mp hmem
        have hbefore : before ≠ [] := by
          rintro rfl
          obtain ⟨c, cs, rfl⟩ := List.exists_cons_of_ne_nil hrun.ne_nil
          have hc := hrest c rfl
          rw [hrun.isWord c List.mem_cons_self] at hc
          nomatch hc
        refine ⟨gap ++ word ++ before, after, by simp, (IsRun.append_iff hbefore).mpr hrun, ?_⟩
        rw [Place.after_append, Place.after_append]
    · rintro ⟨before, after, heq, hrun, rfl⟩
      rcases List.append_eq_append_iff.mp heq with ⟨more, rfl, htail⟩ | ⟨more, rfl, htail⟩
      · rcases hfirst.same_or_apart hrun htail with ⟨rfl, rfl, -⟩ | ⟨between, hne, rfl, rfl⟩
        · exact .inl (by rw [List.append_nil])
        · refine .inr (ih.mpr ⟨between, after, rfl, ?_, ?_⟩)
          · rw [← List.append_assoc] at hrun
            exact (IsRun.append_iff hne).mp hrun
          · rw [Place.after_append, Place.after_append]
      · rcases hrun.same_or_apart hfirst htail with ⟨rfl, rfl, -⟩ | ⟨between, -, rfl, -⟩
        · exact .inl (by rw [List.append_nil])
        -- The run would begin and end inside the gap.
        · exact (hrun.not_gap (by simp) hgap).elim

/-- **The runs are in order.** -/
theorem pairwise (h : Cuts place text words) (start : Position) (hline : 1 ≤ place.line) :
    words.Pairwise fun a b => start.offsetBy a.1 < start.offsetBy b.1 := by
  induction h with
  | gap => exact .nil
  | @word place gap word rest words _ hne _ _ h ih =>
    have hgap : 1 ≤ (place.after gap).line := by
      rw [Place.line_after]
      exact Nat.le_add_right_of_le hline
    have hword : 1 ≤ ((place.after gap).after word).line := by
      rw [Place.line_after]
      exact Nat.le_add_right_of_le hgap
    refine List.pairwise_cons.mpr ⟨fun later hlater => ?_, ih hword⟩
    obtain ⟨before, after, -, -, hplace⟩ := h.mem_iff.mp hlater
    rw [hplace, ← Place.after_append]
    exact start.offsetBy_lt_after hgap (by simp [hne])

end Cuts

/-! ## Tokens -/

section Tokens

variable {source : List Char} {start : Position} {t : HostToken}

theorem isWordChar_mark : isWordChar '#' = false := by decide

theorem head?_codePart {text : List Char} {c : Char} (h : (codePart text).head? = some c) :
    text.head? = some c := by
  rw [codePart, List.head?_takeWhile] at h
  exact Option.eq_some_of_filter_eq_some h

theorem codePart_append (source : List Char) :
    codePart source ++ source.dropWhile (· != '#') = source := List.takeWhile_append_dropWhile

/-- The runs of the part before the first number sign are those of the source that begin there. -/
theorem codePart_runs {before word : List Char} :
    (∃ after, codePart source = before ++ (word ++ after) ∧ IsRun before word after) ↔
      ∃ after, source = before ++ (word ++ after) ∧ IsRun before word after ∧ '#' ∉ before := by
  constructor
  · rintro ⟨after, heq, hrun⟩
    refine ⟨after ++ source.dropWhile (· != '#'), ?_, ⟨hrun.ne_nil, hrun.isWord, hrun.before_gap,
      fun c hc => ?_⟩, fun hmem => ?_⟩
    · rw [← List.append_assoc word, ← List.append_assoc before, ← heq, codePart_append]
    · cases after with
      | nil => rw [dropWhile_field c hc, isWordChar_mark]
      | cons d ds => exact hrun.after_gap c hc
    · exact not_mem_takeWhile_field (heq ▸ List.mem_append_left _ hmem)
  · rintro ⟨after, rfl, hrun, hmark⟩
    have hbefore : ∀ c ∈ before, (c != '#') = true := fun c hc =>
      bne_iff_ne.mpr fun heq => hmark (heq ▸ hc)
    have hword : ∀ c ∈ word, (c != '#') = true := fun c hc => bne_iff_ne.mpr fun heq => by
      have hc := hrun.isWord c hc
      rw [heq, isWordChar_mark] at hc
      nomatch hc
    refine ⟨codePart after, ?_, hrun.ne_nil, hrun.isWord, hrun.before_gap, fun c hc => ?_⟩
    · rw [codePart, List.takeWhile_append_of_pos hbefore, List.takeWhile_append_of_pos hword]
      rfl
    · exact hrun.after_gap c (head?_codePart hc)

/-- **The tokens of a source** are the runs of word characters before its first number sign. -/
theorem mem_tokens :
    t ∈ tokens source start ↔
      ∃ before word after, source = before ++ (word ++ after) ∧ IsRun before word after ∧
        '#' ∉ before ∧ t = ⟨.ident, String.ofList word, endPosition before start⟩ := by
  unfold tokens
  rw [List.mem_map]
  constructor
  · rintro ⟨⟨p, word⟩, hmem, rfl⟩
    obtain ⟨before, after, heq, hrun, rfl⟩ := (cuts_runs .origin _).mem_iff.mp hmem
    obtain ⟨after, heq, hrun, hmark⟩ := codePart_runs.mp ⟨after, heq, hrun⟩
    exact ⟨before, word, after, heq, hrun, hmark, rfl⟩
  · rintro ⟨before, word, after, heq, hrun, hmark, rfl⟩
    obtain ⟨after, heq, hrun⟩ := codePart_runs.mpr ⟨after, heq, hrun, hmark⟩
    exact ⟨_, (cuts_runs .origin _).mem_iff.mpr ⟨before, after, heq, hrun, rfl⟩, rfl⟩

theorem tokens_pairwise (source : List Char) (start : Position) :
    (tokens source start).Pairwise fun a b => a.position < b.position :=
  List.pairwise_map.mpr ((cuts_runs .origin _).pairwise start (Nat.le_refl 1))

end Tokens

end PegCheck.Words
