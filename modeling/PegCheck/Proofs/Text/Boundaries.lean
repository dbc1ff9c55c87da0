import PegCheck.Proofs.Text.Lines

/-!
# Ranges of bytes that cut no character

A byte offset of a source is on a boundary if it is the length of a first part of the source. The
range of a position and a width is made from three cases: a line that does not exist, an empty rest
of a line, and some characters of a line. Only the first of them, which takes the last byte, can cut
a character in two.

* `onBoundary_append_left`, `onBoundary_append_right`: boundaries of a text in two parts.
* `isSome_beforeByte?`: the text before an offset is there unless the offset is inside a character.
* `CutsLast`: the one case in which a range does not begin on a boundary.
* **`spanRange_boundaries`**: the ends of a range, for every source and position.
-/

namespace PegCheck

theorem byteLength_pos {text : List Char} (h : text ≠ []) : 0 < byteLength text := by
  obtain ⟨c, text, rfl⟩ := List.exists_cons_of_ne_nil h
  rw [byteLength_cons]
  exact Nat.add_pos_left c.utf8Size_pos _

theorem byteLength_eq_zero {text : List Char} : byteLength text = 0 ↔ text = [] := by
  constructor
  · intro h
    by_contra hne
    have hpos := byteLength_pos hne
    omega
  · rintro rfl
    rfl

/-! ## Boundaries -/

variable {source a b : List Char} {n : Nat}

theorem onBoundary_byteLength (before after : List Char) :
    OnBoundary (before ++ after) (byteLength before) := ⟨before, after, rfl, rfl⟩

theorem onBoundary_length (source : List Char) : OnBoundary source (byteLength source) :=
  ⟨source, [], (List.append_nil _).symm, rfl⟩

theorem OnBoundary.le_length (h : OnBoundary source n) : n ≤ byteLength source := by
  obtain ⟨before, after, rfl, rfl⟩ := h
  rw [byteLength_append]
  exact Nat.le_add_right _ _

theorem onBoundary_append_left (h : n ≤ byteLength a) :
    OnBoundary (a ++ b) n ↔ OnBoundary a n := by
  constructor
  · rintro ⟨before, after, heq, rfl⟩
    rcases List.append_eq_append_iff.mp heq with ⟨more, rfl, rfl⟩ | ⟨more, rfl, rfl⟩
    · -- The offset is past the first part, so it is the end of that part.
      rw [byteLength_append] at h
      have hmore : more = [] := byteLength_eq_zero.mp (by omega)
      rw [hmore, List.append_nil]
      exact onBoundary_length a
    · exact onBoundary_byteLength before more
  · rintro ⟨before, after, rfl, rfl⟩
    rw [List.append_assoc]
    exact onBoundary_byteLength before _

theorem onBoundary_append_right : OnBoundary (a ++ b) (byteLength a + n) ↔ OnBoundary b n := by
  constructor
  · rintro ⟨before, after, heq, hn⟩
    rcases List.append_eq_append_iff.mp heq with ⟨more, rfl, rfl⟩ | ⟨more, rfl, rfl⟩
    · rw [byteLength_append] at hn
      have hn : n = byteLength more := by omega
      exact hn ▸ onBoundary_byteLength more after
    · rw [byteLength_append] at hn
      have hn : n = 0 := by omega
      exact hn ▸ onBoundary_byteLength [] b
  · rintro ⟨before, after, rfl, rfl⟩
    rw [← List.append_assoc, ← byteLength_append]
    exact onBoundary_byteLength _ after

theorem onBoundary_cons {c : Char} {cs : List Char} (h : c.utf8Size ≤ n) :
    OnBoundary (c :: cs) n ↔ OnBoundary cs (n - c.utf8Size) := by
  have hn : n = byteLength [c] + (n - c.utf8Size) := by
    simp only [byteLength_cons, byteLength_nil]
    omega
  rw [hn, ← List.singleton_append, onBoundary_append_right, ← hn]

/-- Every offset into a text of characters of one byte each is on a boundary. -/
theorem onBoundary_of_single (hsingle : ∀ c ∈ source, c.utf8Size = 1) (h : n ≤ byteLength source) :
    OnBoundary source n := by
  induction source generalizing n with
  | nil =>
    have hn : n = 0 := Nat.le_zero.mp h
    exact hn ▸ onBoundary_length []
  | cons c cs ih =>
    obtain ⟨hc, hcs⟩ := List.forall_mem_cons.mp hsingle
    rw [byteLength_cons, hc] at h
    cases n with
    | zero => exact onBoundary_byteLength [] _
    | succ n =>
      rw [onBoundary_cons (by omega), hc]
      exact ih hcs (by omega)

/-- The first byte of a character is the only one on a boundary. -/
theorem onBoundary_last (before : List Char) (c : Char) :
    OnBoundary (before ++ [c]) (byteLength (before ++ [c]) - 1) ↔ c.utf8Size = 1 := by
  have hpos := c.utf8Size_pos
  have hlast : byteLength (before ++ [c]) - 1 = byteLength before + (c.utf8Size - 1) := by
    simp only [byteLength_append, byteLength_cons, byteLength_nil]
    omega
  rw [hlast, onBoundary_append_right]
  constructor
  · rintro ⟨first, rest, heq, hsize⟩
    rcases List.singleton_eq_append_iff.mp heq with ⟨rfl, -⟩ | ⟨rfl, -⟩
    · rw [byteLength_nil] at hsize
      omega
    · simp only [byteLength_cons, byteLength_nil] at hsize
      omega
  · intro hone
    rw [hone]
    exact onBoundary_byteLength [] [c]

/-- **The text before an offset** is there unless the offset is inside a character. -/
theorem isSome_beforeByte? (text : List Char) (n : Nat) :
    (beforeByte? text n).isSome = true ↔ OnBoundary text n ∨ byteLength text ≤ n := by
  fun_induction beforeByte? text n with
  | case1 => simpa using .inl (onBoundary_byteLength [] _)
  | case2 => simp
  | case3 c cs n hle ih =>
    have hlength : byteLength cs ≤ n + 1 - c.utf8Size ↔ byteLength (c :: cs) ≤ n + 1 := by
      rw [byteLength_cons]
      omega
    rw [Option.isSome_map, ih, onBoundary_cons hle, hlength]
  | case4 c cs n hlt =>
    have hinside : ¬ OnBoundary (c :: cs) (n + 1) := by
      rintro ⟨before, after, heq, hn⟩
      cases before with
      | nil => simp at hn
      | cons d before =>
        obtain ⟨rfl, -⟩ := List.cons.inj heq
        rw [byteLength_cons] at hn
        omega
    have hshort : ¬ byteLength (c :: cs) ≤ n + 1 := by
      rw [byteLength_cons]
      omega
    simpa only [Option.isSome_none, Bool.false_eq_true, false_iff, not_or] using ⟨hinside, hshort⟩

/-- The text before an offset that is not past the end is the first part of that length. -/
theorem beforeByte?_eq_some {text before : List Char} {n : Nat} (h : n ≤ byteLength text) :
    beforeByte? text n = some before ↔ ∃ after, text = before ++ after ∧ n = byteLength before := by
  constructor
  · intro hbefore
    have hboundary : OnBoundary text n := by
      have hsome : (beforeByte? text n).isSome = true := hbefore ▸ rfl
      rcases (isSome_beforeByte? text n).mp hsome with hboundary | hle
      · exact hboundary
      · exact Nat.le_antisymm h hle ▸ onBoundary_length text
    obtain ⟨before', after, rfl, rfl⟩ := hboundary
    rw [beforeByte?_append] at hbefore
    obtain rfl := Option.some.inj hbefore
    exact ⟨after, rfl, rfl⟩
  · rintro ⟨after, rfl, rfl⟩
    exact beforeByte?_append before after

/-! ## The range of a position -/

/-- The position is past the last line, and the source ends in a character of several bytes. -/
def CutsLast (source : List Char) (p : Position) : Prop :=
  byteOffset? source p = none ∧ ∃ c ∈ source.getLast?, c.utf8Size ≠ 1

/-- A line that does not exist has the last byte of the source as its range. -/
theorem spanRange_of_none {p : Position} (h : splitAtPosition? source p = none) (width : Nat) :
    spanRange source p width = (byteLength source - 1, byteLength source) := by
  rw [spanRange, h]

/-- A line that exists has a range between two boundaries. -/
theorem spanRange_of_some {p : Position} {before rest : List Char} {width : Nat}
    (hwidth : 1 ≤ width) (h : splitAtPosition? source p = some (before, rest)) :
    ∃ marked after, rest = marked ++ after ∧
      spanRange source p width = (byteLength before, byteLength (before ++ marked)) := by
  obtain ⟨after, hafter⟩ := isPrefix_take_restOfLine rest width
  have hsource : before ++ rest = source := splitAtPosition?_append h
  rw [spanRange, h]
  dsimp only
  by_cases hmarked : byteLength ((restOfLine rest).take width) = 0
  · -- Nothing is left of the line: the range is the newline after it, or empty at the end.
    have hline : restOfLine rest = [] := by
      have htake := byteLength_eq_zero.mp hmarked
      exact (List.take_eq_nil_iff.mp htake).resolve_left (by omega)
    rw [if_pos hmarked]
    cases rest with
    | nil =>
      refine ⟨[], [], rfl, ?_⟩
      simp [← hsource]
    | cons c more =>
      have hnewline : c = '\n' := by
        by_contra hne
        rw [restOfLine, List.takeWhile_cons_of_pos (by simpa using hne)] at hline
        exact List.cons_ne_nil _ _ hline
      have hone : c.utf8Size = 1 := by
        rw [hnewline]
        rfl
      refine ⟨[c], more, rfl, ?_⟩
      rw [← hsource, Prod.mk.injEq]
      simp only [byteLength_append, byteLength_cons, byteLength_nil, hone, true_and]
      omega
  · rw [if_neg hmarked]
    exact ⟨_, after, hafter.symm, by rw [byteLength_append]⟩

/-- **The ends of a range** are in order and inside the source, and they are on boundaries, but for
the beginning of the range of a line that does not exist, which is the last byte of the source. -/
theorem spanRange_boundaries {source : List Char} {p : Position} {width : Nat}
    (hwidth : 1 ≤ width) :
    (spanRange source p width).1 ≤ (spanRange source p width).2 ∧
      (spanRange source p width).2 ≤ byteLength source ∧
      OnBoundary source (spanRange source p width).2 ∧
      (OnBoundary source (spanRange source p width).1 ↔ ¬ CutsLast source p) := by
  cases hsplit : splitAtPosition? source p with
  | none =>
    rw [spanRange_of_none hsplit]
    refine ⟨Nat.sub_le _ _, Nat.le_refl _, onBoundary_length source, ?_⟩
    have hmissing : byteOffset? source p = none := by rw [byteOffset?, hsplit, Option.map_none]
    rcases source.eq_nil_or_concat with rfl | ⟨before, c, rfl⟩
    · have hboundary : OnBoundary [] 0 := onBoundary_length []
      simp [hboundary, CutsLast]
    · rw [List.concat_eq_append] at hmissing ⊢
      rw [onBoundary_last]
      simp [CutsLast, hmissing]
  | some parts =>
    obtain ⟨before, rest⟩ := parts
    have hsource : before ++ rest = source := splitAtPosition?_append hsplit
    obtain ⟨marked, after, rfl, hrange⟩ := spanRange_of_some hwidth hsplit
    have hexists : byteOffset? source p = some (byteLength before) := by
      rw [byteOffset?, hsplit, Option.map_some]
    have hfirst : OnBoundary source (byteLength before) :=
      hsource ▸ onBoundary_byteLength before _
    have hlast : OnBoundary source (byteLength (before ++ marked)) := by
      rw [← hsource, ← List.append_assoc]
      exact onBoundary_byteLength _ after
    rw [hrange]
    refine ⟨by rw [byteLength_append]; exact Nat.le_add_right _ _, hlast.le_length, hlast, ?_⟩
    simp [hfirst, CutsLast, hexists]

end PegCheck
