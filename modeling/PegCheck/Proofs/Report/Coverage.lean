import PegCheck.Proofs.Report.Spans
import Mathlib.Data.List.Forall2
import Mathlib.Data.List.TakeWhile

/-!
# What a range covers

A position and a width are counted in lines and characters, a range in bytes. In terms of the line
of the position the range covers that many characters from the column on, as far as the line goes;
where nothing is left of the line, it covers the newline, or nothing at the end of the source.

* `IsLine`: a line of a source by its number, with what stands before and after it.
* `splitAtLine?_eq_none`, `IsLine.splitAtPosition?`: which lines exist and where a column leads.
* `MarksLine`: the range of a position and a width, in terms of the line.
* `covers_of_reads`: where a text stands at a position, the range of its length covers that text.
* **`spans_cover`**: the ranges of all positions, and the ranges with which findings mark names.
-/

namespace PegCheck

/-- The range takes the bytes of the text `marked`, which stands after `before` in the source. -/
structure Covers (source : List Char) (range : Nat × Nat) (before marked : List Char) : Prop where
  stands : before ++ marked <+: source
  range_eq : range = (byteLength before, byteLength (before ++ marked))

/-! ## Lines -/

/-- The text `line` is line `n` of the source, counted from zero, between the lines before it and
its newline or the end. -/
structure IsLine (source : List Char) (n : Nat) (before line after : List Char) : Prop where
  source_eq : source = before ++ (line ++ after)
  whole : WholeLines before
  count : before.count '\n' = n
  not_mem : '\n' ∉ line
  after_eq : after = [] ∨ ∃ more, after = '\n' :: more

theorem exists_isLine {source : List Char} {n : Nat} (h : n ≤ source.count '\n') :
    ∃ before line after, IsLine source n before line after := by
  induction n generalizing source with
  | zero =>
    by_cases hmem : '\n' ∈ source
    · obtain ⟨line, more, rfl, hline⟩ := List.eq_append_cons_of_mem hmem
      exact ⟨[], line, '\n' :: more, rfl, .inl rfl, rfl, hline, .inr ⟨more, rfl⟩⟩
    · exact ⟨[], source, [], by simp, .inl rfl, rfl, hmem, .inl rfl⟩
  | succ n ih =>
    have hmem : '\n' ∈ source := List.count_pos_iff.mp (by omega)
    obtain ⟨first, more, rfl, hfirst⟩ := List.eq_append_cons_of_mem hmem
    rw [List.count_append, List.count_eq_zero_of_not_mem hfirst, List.count_cons_self] at h
    have hmore : n ≤ more.count '\n' := by omega
    obtain ⟨before, line, after, rfl, hwhole, hcount, hline, hafter⟩ := ih hmore
    refine ⟨first ++ '\n' :: before, line, after, by simp, hwhole.cons first, ?_, hline, hafter⟩
    rw [List.count_append, List.count_eq_zero_of_not_mem hfirst, List.count_cons_self, hcount]
    omega

namespace IsLine

variable {source before line after : List Char} {n : Nat}

theorem restOfLine_append (h : IsLine source n before line after) (k : Nat) :
    restOfLine (line.drop k ++ after) = line.drop k := by
  refine PegCheck.restOfLine_append (fun hmem => h.not_mem (List.mem_of_mem_drop hmem)) ?_
  rcases h.after_eq with rfl | ⟨more, rfl⟩
  · simp
  · simp

theorem splitAtLine? (h : IsLine source n before line after) :
    splitAtLine? n source = some (before, line ++ after) := by
  rw [← h.count, h.source_eq]
  exact splitAtLine?_wholeLines h.whole _

/-- A column leads that far into the line, at most to its end. -/
theorem splitAtPosition? {p : Position} (h : IsLine source (p.line - 1) before line after) :
    splitAtPosition? source p =
      some (before ++ line.take (p.column - 1), line.drop (p.column - 1) ++ after) := by
  have hline : restOfLine (line ++ after) = line := h.restOfLine_append 0
  have hcut : (line ++ after).drop (line.take (p.column - 1)).length =
      line.drop (p.column - 1) ++ after := by
    have hparts : line ++ after = line.take (p.column - 1) ++ (line.drop (p.column - 1) ++ after) := by
      rw [← List.append_assoc, List.take_append_drop]
    rw [hparts, List.drop_left]
  rw [PegCheck.splitAtPosition?, h.splitAtLine?]
  simp only [Option.map_some, hline, hcut]

/-- Past the end of the line, a column leads to its end. -/
theorem splitAtPosition?_of_length_le {p : Position}
    (h : IsLine source (p.line - 1) before line after) (hcolumn : line.length ≤ p.column - 1) :
    PegCheck.splitAtPosition? source p = some (before ++ line, after) := by
  rw [h.splitAtPosition?, List.take_of_length_le hcolumn, List.drop_of_length_le hcolumn,
    List.nil_append]

end IsLine

/-- **A line exists** if as many newlines come before it as its number says. -/
theorem splitAtLine?_eq_none {source : List Char} {n : Nat} :
    splitAtLine? n source = none ↔ source.count '\n' < n := by
  constructor
  · intro h
    by_contra hle
    obtain ⟨before, line, after, hline⟩ := exists_isLine (Nat.le_of_not_lt hle)
    rw [hline.splitAtLine?] at h
    nomatch h
  · intro hlt
    induction n generalizing source with
    | zero => exact absurd hlt (Nat.not_lt_zero _)
    | succ n ih =>
      by_cases hmem : '\n' ∈ source
      · obtain ⟨first, more, rfl, hfirst⟩ := List.eq_append_cons_of_mem hmem
        rw [List.count_append, List.count_eq_zero_of_not_mem hfirst, List.count_cons_self] at hlt
        have hmore : more.count '\n' < n := by omega
        rw [splitAtLine?, (takeWhile_line hfirst more).2]
        simp only [ih hmore, Option.map_none]
      · have hnone : source.dropWhile (· != '\n') = [] :=
          List.dropWhile_eq_nil_iff.mpr fun c hc => bne_iff_ne.mpr fun heq => hmem (heq ▸ hc)
        rw [splitAtLine?, hnone]

theorem byteOffset?_eq_none {source : List Char} {p : Position} :
    byteOffset? source p = none ↔ source.count '\n' + 1 < p.line := by
  rw [byteOffset?, splitAtPosition?, Option.map_eq_none_iff, Option.map_eq_none_iff,
    splitAtLine?_eq_none]
  omega

/-! ## Ranges on lines -/

/-- The range of a position and a width, where the line of the position stands between `before` and
`after`. -/
structure MarksLine (source : List Char) (p : Position) (width : Nat)
    (before line after : List Char) : Prop where
  isLine : IsLine source (p.line - 1) before line after
  /-- It begins at the column, or at the end of the line if that comes first. -/
  start : byteOffset? source p = some (byteLength (before ++ line.take (p.column - 1)))
  /-- From there it takes characters of the line, as many as there are up to the width. -/
  within : p.column - 1 < line.length →
    Covers source (spanRange source p width) (before ++ line.take (p.column - 1))
      ((line.drop (p.column - 1)).take width)
  /-- Where no character is left, it takes the newline. -/
  newline : line.length ≤ p.column - 1 → after ≠ [] →
    Covers source (spanRange source p width) (before ++ line) ['\n']
  /-- At the end of the source it is empty. -/
  finish : line.length ≤ p.column - 1 → after = [] →
    Covers source (spanRange source p width) source []

theorem IsLine.marksLine {source before line after : List Char} {p : Position} {width : Nat}
    (h : IsLine source (p.line - 1) before line after) (hwidth : 1 ≤ width) :
    MarksLine source p width before line after where
  isLine := h
  start := by
    rw [byteOffset?, h.splitAtPosition?]
    rfl
  within := by
    intro hcolumn
    have hmarked : (line.drop (p.column - 1)).take width ≠ [] := by
      simp only [ne_eq, List.take_eq_nil_iff, List.drop_eq_nil_iff]
      omega
    have hlength := byteLength_pos hmarked
    constructor
    · refine ⟨(line.drop (p.column - 1)).drop width ++ after, ?_⟩
      rw [List.append_assoc, ← List.append_assoc _ _ after, List.take_append_drop,
        List.append_assoc, ← List.append_assoc _ _ after, List.take_append_drop]
      exact h.source_eq.symm
    · rw [spanRange, h.splitAtPosition?]
      simp only [h.restOfLine_append]
      rw [if_neg (by omega), ← byteLength_append]
  newline := by
    intro hcolumn hafter
    obtain ⟨more, rfl⟩ := h.after_eq.resolve_left hafter
    have hsplit := h.splitAtPosition?_of_length_le hcolumn
    have hsource : (before ++ line) ++ '\n' :: more = source := splitAtPosition?_append hsplit
    constructor
    · exact ⟨more, by simp [← hsource]⟩
    · have hone : byteLength ['\n'] = 1 := rfl
      have hend : byteLength (before ++ line) + 1 ≤ byteLength source := by
        rw [← hsource, byteLength_append _ ('\n' :: more), byteLength_cons]
        exact Nat.add_le_add_left (Nat.le_add_right 1 _) _
      have hnothing : restOfLine ('\n' :: more) = [] := rfl
      rw [spanRange, hsplit, byteLength_append _ ['\n'], hone]
      simp only [hnothing, List.take_nil, byteLength_nil, if_true, Nat.min_eq_left hend]
  finish := by
    rintro hcolumn rfl
    have hsplit := h.splitAtPosition?_of_length_le hcolumn
    have hsource : (before ++ line) ++ [] = source := splitAtPosition?_append hsplit
    rw [List.append_nil] at hsource
    constructor
    · exact ⟨[], by simp⟩
    · rw [spanRange, hsplit]
      simp [restOfLine, ← hsource]

/-! ## Ranges of texts -/

/-- The text stands in the source at the position, after `before`. A line or column of zero counts
as one. -/
structure Reads (source : List Char) (p : Position) (before text : List Char) : Prop where
  stands : before ++ text <+: source
  position : endPosition before .origin = ⟨max p.line 1, max p.column 1⟩

/-- A line or column of zero counts as one. -/
theorem spanRange_max (source : List Char) (p : Position) (width : Nat) :
    spanRange source ⟨max p.line 1, max p.column 1⟩ width = spanRange source p width := by
  have hline : max p.line 1 - 1 = p.line - 1 := by omega
  have hcolumn : max p.column 1 - 1 = p.column - 1 := by omega
  simp only [spanRange, splitAtPosition?, hline, hcolumn]

/-- **A text that stands at a position** is what the range of its length covers there, if it has a
character and no newline. -/
theorem covers_of_reads {source : List Char} {p : Position} {before text : List Char}
    (h : Reads source p before text) (htext : text ≠ []) (hline : '\n' ∉ text) :
    Covers source (spanRange source p text.length) before text := by
  refine ⟨h.stands, ?_⟩
  obtain ⟨after, rfl⟩ := h.stands
  have hmarked := take_restOfLine_append hline after
  have hlength := byteLength_pos htext
  rw [← spanRange_max, ← h.position, List.append_assoc, spanRange,
    splitAtPosition?_endPosition]
  simp only [hmarked]
  rw [if_neg (by omega), byteLength_append]

end PegCheck

namespace PegCheck.Report

/-- The name that a cause is about, if it marks a name. -/
def nameOf? : Cause → Option String
  | .noReduction name _ => some name
  | .unusedRule name _ => some name
  | _ => none

theorem spanWidth_of_name {c : Cause} {name : String} (h : nameOf? c = some name)
    (hname : name ≠ "") : c.spanWidth = name.toList.length := by
  have hpos : 1 ≤ name.length := by
    rw [← String.length_toList]
    exact List.length_pos_iff.mpr fun hnil => hname (String.toList_eq_nil_iff.mp hnil)
  cases c with
  | noReduction n =>
    obtain rfl := Option.some.inj h
    exact Nat.max_eq_left hpos
  | unusedRule n =>
    obtain rfl := Option.some.inj h
    exact Nat.max_eq_left hpos
  | hostSyntaxError => nomatch h
  | hostParseError => nomatch h

/-- Every place of a finding has its annotation. -/
theorem forall₂_annotationsOf {source : List Char} {c : Cause} {R : Position → Nat × Nat → Prop}
    (h : ∀ p ∈ places c, R p (spanRange source p c.spanWidth)) :
    List.Forall₂ (fun p a => R p a.range) (places c) (annotationsOf source c) := by
  refine .cons (h _ List.mem_cons_self) ?_
  rw [List.forall₂_map_right_iff]
  exact List.forall₂_same.mpr fun p hp => h p (List.mem_cons_of_mem _ hp)

/-- **What ranges cover.** A position has no offset exactly if its line exceeds the number of
newlines by more than one. On a line that exists, the range of a position and a width covers the
characters of that line from the column on, up to the width, or the newline where none is left. And
where the source reads the name of a finding at one of its places, the range with which that place
is marked covers that name. -/
theorem spans_cover (source : List Char) :
    (∀ p : Position, byteOffset? source p = none ↔ source.count '\n' + 1 < p.line) ∧
    (∀ p : Position, p.line ≤ source.count '\n' + 1 → ∃ before line after,
      ∀ width, 1 ≤ width → MarksLine source p width before line after) ∧
    ∀ (c : Cause) (name : String), nameOf? c = some name → name ≠ "" → '\n' ∉ name.toList →
      List.Forall₂ (fun p a => ∀ before, Reads source p before name.toList →
        Covers source a.range before name.toList) (places c) (annotationsOf source c) := by
  refine ⟨fun p => byteOffset?_eq_none, fun p hp => ?_, fun c name hc hname hline => ?_⟩
  · obtain ⟨before, line, after, h⟩ := exists_isLine (show p.line - 1 ≤ source.count '\n' by omega)
    exact ⟨before, line, after, fun width hwidth => h.marksLine hwidth⟩
  · have htext : name.toList ≠ [] := fun hnil => hname (String.toList_eq_nil_iff.mp hnil)
    refine forall₂_annotationsOf (R := fun p range => ∀ before, Reads source p before name.toList →
      Covers source range before name.toList) fun p _ before hreads => ?_
    rw [spanWidth_of_name hc hname]
    exact covers_of_reads hreads htext hline

/-- A source whose lines have wide characters, and a name of two of them. -/
def markedSource : List Char := "a ← ß€ / ß€\nb\n".toList

/-- The name is referenced twice and has no rule. -/
def markedCause : Cause := .noReduction "ß€" [⟨1, 5⟩, ⟨0, 10⟩]

theorem reads_markedSource :
    Reads markedSource ⟨1, 5⟩ "a ← ".toList "ß€".toList ∧
      Reads markedSource ⟨0, 10⟩ "a ← ß€ / ".toList "ß€".toList :=
  ⟨⟨⟨" / ß€\nb\n".toList, by decide⟩, by decide⟩, ⟨⟨"\nb\n".toList, by decide⟩, by decide⟩⟩

theorem spans_cover_sample :
    byteOffset? markedSource ⟨4, 1⟩ = none ∧
      (∃ before line after, ∀ width, 1 ≤ width →
        MarksLine markedSource ⟨2, 7⟩ width before line after) ∧
      nameOf? markedCause = some "ß€" ∧
      ∃ first second, annotationsOf markedSource markedCause = [first, second] ∧
        Covers markedSource first.range "a ← ".toList "ß€".toList ∧
        Covers markedSource second.range "a ← ß€ / ".toList "ß€".toList := by
  obtain ⟨hmissing, hlines, hnames⟩ := spans_cover markedSource
  have hname : nameOf? markedCause = some "ß€" := rfl
  have hmarks := hnames markedCause "ß€" hname (by decide) (by decide)
  obtain ⟨hfirst, hrest⟩ := List.forall₂_cons.mp hmarks
  obtain ⟨hsecond, -⟩ := List.forall₂_cons.mp hrest
  exact ⟨(hmissing ⟨4, 1⟩).mpr (by decide), hlines ⟨2, 7⟩ (by decide), hname, _, _, rfl,
    hfirst _ reads_markedSource.1, hsecond _ reads_markedSource.2⟩

end PegCheck.Report
