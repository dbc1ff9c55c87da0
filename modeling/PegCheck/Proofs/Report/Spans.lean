import PegCheck.Proofs.Text.Boundaries
import PegCheck.Report.Printer

/-!
# Which findings can be drawn

A report looks up the ends of its ranges in the lines of the source, and there is no report when an
end is inside a character. The ranges of findings begin and end on boundaries, except at a position
past the last line of a source that ends in a character of several bytes.

* `Tiles`: the lines of a source follow each other without a gap; `tiles_linesFrom`: so they do.
* `isSome_pointAt?`: a byte has a point in the lines of a source if it is on a boundary.
* `isSome_sheet?`: a finding can be drawn if none of its places makes a range that cuts a character.
* **`spans_cut_no_character`**: the ranges of all positions, and the findings that can be drawn.
* `print_last_byte`: a finding past the end of a source of one wide character cannot be drawn.
-/

namespace PegCheck.Report

/-! ## Lines -/

/-- The lines follow each other from byte `first` on and make up the text, where each has a line end
of characters of one byte. -/
inductive Tiles : Nat → List Char → List Line → Prop where
  | nil {first : Nat} : Tiles first [] []
  | cons {first : Nat} {line : Line} {ending rest : List Char} {lines : List Line}
      (hfirst : line.first = first) (hlast : line.last = first + byteLength (line.text ++ ending))
      (hending : ∀ c ∈ ending, c.utf8Size = 1) (hlater : Tiles line.last rest lines) :
      Tiles first (line.text ++ ending ++ rest) (line :: lines)

theorem Tiles.eq_nil {first : Nat} {source : List Char} (h : Tiles first source []) :
    source = [] := by
  cases h
  rfl

/-- What stands before a newline is the text of a line, and perhaps a carriage return. -/
theorem exists_chopLine (text : List Char) :
    ∃ ending, text ++ ['\n'] = (chopLine text).1 ++ ending ∧
      byteLength ending = (chopLine text).2 ∧ ∀ c ∈ ending, c.utf8Size = 1 := by
  unfold chopLine
  split
  · rename_i hreturn
    obtain ⟨before, rfl⟩ := List.getLast?_eq_some_iff.mp hreturn
    have hnewline : ∀ c ∈ ['\n'], c.utf8Size = 1 := List.forall_mem_singleton.mpr rfl
    refine ⟨['\r', '\n'], ?_, rfl, List.forall_mem_cons.mpr ⟨rfl, hnewline⟩⟩
    rw [List.dropLast_concat, List.append_assoc]
    rfl
  · exact ⟨['\n'], rfl, rfl, List.forall_mem_singleton.mpr rfl⟩

/-- **The lines of a source** follow each other without a gap. -/
theorem tiles_linesFrom (number first : Nat) (text cs : List Char) :
    Tiles first (text.reverse ++ cs) (linesFrom number first text cs) := by
  induction cs generalizing number first text with
  | nil =>
    rw [linesFrom]
    by_cases htext : text.isEmpty = true
    · rw [if_pos htext, List.isEmpty_iff.mp htext]
      exact .nil
    · rw [if_neg htext]
      have hline := @Tiles.cons first
        ⟨number, text.reverse, first, first + byteLength text.reverse, 0⟩ [] [] [] rfl
        (by rw [List.append_nil]) (by simp) .nil
      simpa using hline
  | cons c cs ih =>
    by_cases hc : c = '\n'
    · subst hc
      obtain ⟨ending, hcut, hlength, hsingle⟩ := exists_chopLine text.reverse
      have hsource : text.reverse ++ '\n' :: cs =
          (chopLine text.reverse).1 ++ ending ++ cs := by
        rw [← hcut]
        simp
      rw [linesFrom, hsource]
      generalize chopLine text.reverse = chopped at hlength ⊢
      obtain ⟨line, length⟩ := chopped
      obtain rfl : byteLength ending = length := hlength
      refine @Tiles.cons first ⟨number, line, first, _, _⟩ ending cs _ rfl ?_ hsingle (ih _ _ [])
      rw [byteLength_append, Nat.add_assoc]
    · have hstep : linesFrom number first text (c :: cs) = linesFrom number first (c :: text) cs := by
        rw [linesFrom]
        exact hc
      have hsource : text.reverse ++ c :: cs = (c :: text).reverse ++ cs := by simp
      rw [hstep, hsource]
      exact ih number first (c :: text)

/-! ## Looking up a byte -/

theorem lineAt_of_lt {line : Line} {lines : List Line} {byte : Nat} (hfirst : line.first ≤ byte)
    (hlast : byte < line.last) : lineAt (line :: lines) byte = line := by
  simp [lineAt, hfirst, hlast]

theorem lineAt_of_le {line : Line} {lines : List Line} {byte : Nat} (hlines : lines ≠ [])
    (hlast : line.last ≤ byte) : lineAt (line :: lines) byte = lineAt lines byte := by
  have houtside : ¬ byte < line.last := by omega
  simp [lineAt, houtside, List.getLast?_cons_of_ne_nil hlines]

theorem lineAt_singleton {line : Line} {byte : Nat} : lineAt [line] byte = line := by
  unfold lineAt
  rw [List.find?_cons]
  split <;> rfl

/-- Inside a line and its line end, the text before a byte is there if the byte is on a boundary. -/
theorem isSome_beforeByte?_line {text ending : List Char} {n : Nat}
    (hending : ∀ c ∈ ending, c.utf8Size = 1) (hn : n ≤ byteLength (text ++ ending)) :
    (beforeByte? text n).isSome = true ↔ OnBoundary (text ++ ending) n := by
  rw [isSome_beforeByte?]
  by_cases htext : n ≤ byteLength text
  · rw [onBoundary_append_left htext]
    refine or_iff_left_of_imp fun hlength => ?_
    rw [Nat.le_antisymm htext hlength]
    exact onBoundary_length text
  · -- The line end has characters of one byte only.
    obtain ⟨m, rfl⟩ := Nat.exists_eq_add_of_le (Nat.le_of_not_le htext)
    rw [byteLength_append] at hn
    have hboundary : OnBoundary ending m := onBoundary_of_single hending (by omega)
    exact iff_of_true (.inr (by omega)) (onBoundary_append_right.mpr hboundary)

/-- In the line in which a byte lies, the text before the byte is there if the byte is on a boundary
of the source. -/
theorem Tiles.isSome_beforeByte? {first byte : Nat} {source : List Char} {lines : List Line}
    (h : Tiles first source lines) (hlines : lines ≠ []) (hfirst : first ≤ byte)
    (hbyte : byte ≤ first + byteLength source) :
    (beforeByte? (lineAt lines byte).text (byte - (lineAt lines byte).first)).isSome = true ↔
      OnBoundary source (byte - first) := by
  induction h with
  | nil => exact absurd rfl hlines
  | @cons first line ending rest later hline hlast hending hlater ih =>
    rw [byteLength_append] at hlast hbyte
    by_cases hin : byte ≤ line.last ∧ (byte < line.last ∨ later = [])
    · -- The byte is in this line, or at the end of the last line.
      have hat : lineAt (line :: later) byte = line := by
        rcases hin.2 with hlt | rfl
        · exact lineAt_of_lt (by omega) hlt
        · exact lineAt_singleton
      have hinside : byte - first ≤ byteLength (line.text ++ ending) := by
        rw [byteLength_append]
        omega
      rw [hat, hline, onBoundary_append_left hinside]
      exact isSome_beforeByte?_line hending hinside
    · have hnonempty : later ≠ [] := by
        rintro rfl
        cases hlater
        rw [byteLength_append, byteLength_nil] at hbyte
        exact hin ⟨by omega, .inr rfl⟩
      have hpast : line.last ≤ byte := by
        by_contra hlt
        exact hin ⟨by omega, .inl (by omega)⟩
      have hoffset : byte - first = byteLength (line.text ++ ending) + (byte - line.last) := by
        rw [byteLength_append]
        omega
      rw [byteLength_append] at hbyte
      rw [lineAt_of_le hnonempty hpast, ih hnonempty hpast (by omega), hoffset,
        onBoundary_append_right]

/-- **A byte has a point** in the lines of a source if it is on a boundary. -/
theorem isSome_pointAt? {source : List Char} {byte : Nat} (hbyte : byte ≤ byteLength source) :
    (pointAt? (linesOf source) byte).isSome = true ↔ OnBoundary source byte := by
  unfold pointAt?
  dsimp only
  rw [Option.isSome_map]
  cases source with
  | nil =>
    obtain rfl := Nat.le_zero.mp hbyte
    exact iff_of_true rfl (onBoundary_length [])
  | cons c cs =>
    have htiles : Tiles 0 (c :: cs) (linesOf (c :: cs)) := tiles_linesFrom 1 0 [] (c :: cs)
    have hlines : linesOf (c :: cs) ≠ [] := fun hnil => nomatch (hnil ▸ htiles).eq_nil
    exact htiles.isSome_beforeByte? hlines (Nat.zero_le _) (by rwa [Nat.zero_add])

/-- A range has points if both its ends have. -/
theorem isSome_pointsOf?_iff (lines : List Line) (range : Nat × Nat) :
    (pointsOf? lines range).isSome = true ↔
      (pointAt? lines range.1).isSome = true ∧ (pointAt? lines range.2).isSome = true := by
  have hfirst : (firstPoint? lines range.1).isSome = (pointAt? lines range.1).isSome := by
    rw [firstPoint?, Option.isSome_map]
  have hlast : ∀ first, (lastPoint? lines first range.2).isSome =
      (pointAt? lines range.2).isSome := fun first => by
    rw [lastPoint?, Option.isSome_map]
  rw [← hfirst, pointsOf?]
  cases hpoint : firstPoint? lines range.1 with
  | none => simp
  | some first =>
    rw [hpoint] at hfirst
    rw [← hlast first]
    by_cases hempty : range.1 = range.2
    · have hsame : (lastPoint? lines first range.2).isSome = true := by
        rw [hlast, ← hempty, ← hfirst]
        rfl
      simp only [Option.bind_eq_bind, Option.bind_some, if_pos hempty, hsame]
      split <;> simp
    · simp only [Option.bind_eq_bind, Option.bind_some, if_neg hempty]
      cases lastPoint? lines first range.2 with
      | none => simp
      | some last =>
        simp only [Option.bind_some]
        split <;> simp

/-! ## Drawing findings -/

/-- A list of results is there if all of them are. -/
theorem isSome_mapM {α β : Type} (f : α → Option β) (l : List α) :
    (l.mapM f).isSome = true ↔ ∀ a ∈ l, (f a).isSome = true := by
  induction l with
  | nil => simp
  | cons a l ih =>
    rw [List.mapM_cons, List.forall_mem_cons, ← ih]
    cases f a with
    | none => simp
    | some b => cases l.mapM f <;> simp

theorem isSome_bind_pure {α β : Type} (x : Option α) (f : α → β) :
    (x >>= fun a => pure (f a)).isSome = x.isSome := by
  cases x <;> rfl

/-- All places that a finding marks. -/
def places (c : Cause) : List Position := c.location :: c.otherLocations

theorem spanWidth_pos (c : Cause) : 1 ≤ c.spanWidth := by
  cases c with
  | noReduction name => exact Nat.le_max_right _ _
  | unusedRule name => exact Nat.le_max_right _ _
  | hostSyntaxError => exact Nat.le_refl 1
  | hostParseError => exact Nat.le_refl 1

theorem forall_annotationsOf {source : List Char} {c : Cause} {P : Nat × Nat → Prop} :
    (∀ a ∈ annotationsOf source c, P a.range) ↔
      ∀ p ∈ places c, P (spanRange source p c.spanWidth) := by
  simp [annotationsOf, places]

theorem isSome_markLines? (lines : List Line) (annotations : List Annotation) :
    (markLines? lines annotations).isSome = true ↔
      ∀ a ∈ annotations, (pointsOf? lines a.range).isSome = true := by
  have hmarks : (markLines? lines annotations).isSome =
      (annotations.mapM fun a : Annotation => do
        let points ← pointsOf? lines a.range
        return (points, a)).isSome :=
    isSome_bind_pure _ _
  rw [hmarks, isSome_mapM]
  simp only [isSome_bind_pure]

/-- **A finding can be drawn** if none of its places cuts the last character of the source. -/
theorem isSome_sheet? (source : List Char) (path : Option String) (f : Finding) :
    (sheet? source path f).isSome = true ↔ ∀ p ∈ places f.cause, ¬ CutsLast source p := by
  have hsheet : (sheet? source path f).isSome =
      (markLines? (linesOf source) (annotationsOf source f.cause)).isSome := by
    unfold sheet?
    dsimp only
    exact isSome_bind_pure _ _
  rw [hsheet, isSome_markLines?, forall_annotationsOf (P := fun range =>
    (pointsOf? (linesOf source) range).isSome = true)]
  refine forall_congr' fun p => forall_congr' fun _ => ?_
  obtain ⟨hle, hlast, hend, hbegin⟩ :=
    @spanRange_boundaries source p _ (spanWidth_pos f.cause)
  rw [isSome_pointsOf?_iff, isSome_pointAt? (Nat.le_trans hle hlast), isSome_pointAt? hlast]
  exact (and_iff_left hend).trans hbegin

/-- Findings can be printed with a source if each of them can be drawn. -/
theorem isSome_print (s : Settings) (source : String) (fs : Findings) :
    (print { s with source := some source } fs).isSome = true ↔
      ∀ f ∈ fs, ∀ p ∈ places f.cause, ¬ CutsLast source.toList p := by
  have hprint : (print { s with source := some source } fs).isSome =
      (fs.mapM fun f => do
        let canvas ← sheet? source.toList s.path f
        return canvas.print (Ink.escape s.colored f.severity)).isSome :=
    isSome_bind_pure _ _
  rw [hprint, isSome_mapM]
  simp only [isSome_bind_pure, isSome_sheet?]

/-- **The range of a position** lies in the source with its ends in order, and only at a position
past the last line of a source that ends in a character of several bytes does it cut a character.
Findings can be printed with the source exactly if none of them marks such a position. -/
theorem spans_cut_no_character (source : String) :
    (∀ (p : Position) (width : Nat), 1 ≤ width →
      (spanRange source.toList p width).1 ≤ (spanRange source.toList p width).2 ∧
        (spanRange source.toList p width).2 ≤ byteLength source.toList ∧
        OnBoundary source.toList (spanRange source.toList p width).2 ∧
        (OnBoundary source.toList (spanRange source.toList p width).1 ↔
          ¬ CutsLast source.toList p)) ∧
    ∀ (s : Settings) (fs : Findings),
      (print { s with source := some source } fs).isSome = true ↔
        ∀ f ∈ fs, ∀ p ∈ places f.cause, ¬ CutsLast source.toList p :=
  ⟨fun _ _ hwidth => spanRange_boundaries hwidth, fun s fs => isSome_print s source fs⟩

/-- A position past the end of a line of wide characters has the newline as its range. -/
theorem spans_cut_no_character_sample :
    1 ≤ 3 ∧ spanRange "ß€\né".toList ⟨1, 9⟩ 3 = (5, 6) ∧
      OnBoundary "ß€\né".toList (spanRange "ß€\né".toList ⟨1, 9⟩ 3).1 ∧
      OnBoundary "ß€\né".toList (spanRange "ß€\né".toList ⟨1, 9⟩ 3).2 := by
  have hwidth : 1 ≤ 3 := by decide
  have hline : ¬ CutsLast "ß€\né".toList ⟨1, 9⟩ := fun h => by
    have hoffset : byteOffset? "ß€\né".toList ⟨1, 9⟩ = some 5 := by decide
    rw [CutsLast, hoffset] at h
    exact Option.some_ne_none 5 h.1
  obtain ⟨-, -, hlast, hfirst⟩ := (spans_cut_no_character "ß€\né").1 ⟨1, 9⟩ 3 hwidth
  exact ⟨hwidth, by decide, hfirst.mpr hline, hlast⟩

/-- **The last byte of a wide character.** At a position past the last line the range is the last
byte of the source, which here is inside its only character, and the finding is not drawn. -/
theorem print_last_byte :
    spanRange "é".toList ⟨2, 1⟩ 1 = (1, 2) ∧ ¬ OnBoundary "é".toList 1 ∧
      print { source := some "é" } [.ofCause (.unusedRule "b" ⟨2, 1⟩)] = none := by
  have hwide : ¬ 'é'.utf8Size = 1 := by decide
  have hcuts : CutsLast "é".toList ⟨2, 1⟩ := ⟨by decide, 'é', by decide, hwide⟩
  refine ⟨by decide, mt (onBoundary_last [] 'é').mp hwide, ?_⟩
  have hprint := isSome_print {} "é" [.ofCause (.unusedRule "b" ⟨2, 1⟩)]
  rw [← Option.not_isSome_iff_eq_none]
  exact fun h => hprint.mp h _ List.mem_cons_self _ List.mem_cons_self hcuts

end PegCheck.Report
