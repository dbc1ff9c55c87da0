import PegCheck.Proofs.Host.Words
import PegCheck.Proofs.Text.Boundaries
import PegCheck.Proofs.Text.Snippets

/-!
# Words by byte offsets

The words of a text may be found without keeping their characters: a scan over the characters and
their byte offsets notes where a word begins, and where the word ends it cuts the bytes between the
two offsets out of the text and looks up the position of the first. Such a cut fails inside a
character. It never does here, because the scan only notes offsets at which characters begin, and
the words that come out are the runs of word characters that the front end makes its tokens.

* `slice?`: the text between two byte offsets; `slice?_eq_some`: there is none inside a character.
* `Scan.step`: one character of the scan, with the word that is open and the tokens so far.
* `Opened`: the offset that the scan has noted and the word that a walk would have open.
* **`foldlM_step`**: what the scan finds from some character on.
* `Cuts.exists_gaps`: words and the gaps before, between and after them give back the text.
* **`parse_words`**: the tokens of a source that is accepted.
-/

namespace PegCheck

/-! ## Slices of a text -/

/-- The part of a text from one byte offset to another; none if they are not in order, past the end
or inside a character. -/
def slice? (text : List Char) (first last : Nat) : Option (List Char) :=
  if first ≤ last ∧ last ≤ byteLength text then
    (beforeByte? text first).bind fun before =>
      beforeByte? (text.drop before.length) (last - first)
  else none

/-- **No slice cuts a character.** -/
theorem slice?_eq_some {text part : List Char} {first last : Nat} :
    slice? text first last = some part ↔
      ∃ before after, text = before ++ (part ++ after) ∧ first = byteLength before ∧
        last = byteLength (before ++ part) := by
  unfold slice?
  constructor
  · intro h
    obtain ⟨⟨hle, hlast⟩, h⟩ := Option.ite_none_right_eq_some.mp h
    obtain ⟨before, hbefore, hpart⟩ := Option.bind_eq_some_iff.mp h
    obtain ⟨rest, rfl, rfl⟩ := (beforeByte?_eq_some (hle.trans hlast)).mp hbefore
    rw [List.drop_left] at hpart
    rw [byteLength_append] at hlast
    obtain ⟨after, rfl, hlength⟩ := (beforeByte?_eq_some (by omega)).mp hpart
    exact ⟨before, after, rfl, rfl, by rw [byteLength_append]; omega⟩
  · rintro ⟨before, after, rfl, rfl, rfl⟩
    have hbounds : byteLength before ≤ byteLength (before ++ part) ∧
        byteLength (before ++ part) ≤ byteLength (before ++ (part ++ after)) := by
      simp only [byteLength_append]
      omega
    rw [if_pos hbounds, beforeByte?_append, Option.bind_some, List.drop_left, byteLength_append,
      Nat.add_sub_cancel_left, beforeByte?_append]

namespace Words

open Text (isWordChar)

/-! ## The scan -/

/-- The characters of a text that begins at byte `offset`, each with the offset of its first byte,
and a blank behind the last. -/
def withOffsets (offset : Nat) : List Char → List (Nat × Char)
  | [] => [(offset, ' ')]
  | c :: cs => (offset, c) :: withOffsets (offset + c.utf8Size) cs

/-- The offset at which the open word begins, if one is open, and the tokens so far. -/
structure Scan where
  opened : Option Nat
  tokens : List HostToken

/-- One character of the scan of a source that begins at `start`. A word opens at its first
character, and at the first character after it its slice is taken from the code. -/
def Scan.step (source : List Char) (start : Position) (s : Scan) (next : Nat × Char) :
    Option Scan :=
  match s.opened, isWordChar next.2 with
  | none, true => some { s with opened := some next.1 }
  | some first, false => do
    let word ← slice? (codePart source) first next.1
    let position ← positionAt? source first start
    return ⟨none, s.tokens ++ [⟨.ident, String.ofList word, position⟩]⟩
  | _, _ => some s

/-- The words of the code of a source by their offsets, unless a slice or a position would be inside
a character. -/
def scan? (source : List Char) (start : Position) : Option (List HostToken) :=
  ((withOffsets 0 (codePart source)).foldlM (Scan.step source start) ⟨none, []⟩).map Scan.tokens

/-- What the scan has noted and what the walk `runs` has open after the same characters. -/
inductive Opened : List Char → Option Nat → Option (Place × List Char) → Prop where
  | none {before : List Char} : Opened before none none
  | word {front word : List Char} :
      Opened (front ++ word) (some (byteLength front)) (some (Place.origin.after front, word))

section Steps

variable {source before rest : List Char} {noted : Option Nat} {word : Option (Place × List Char)}
  {c : Char}

/-- The open word with one character more, or a word that opens at `place`. -/
def grow (place : Place) (c : Char) : Option (Place × List Char) → Place × List Char
  | none => (place, [c])
  | some (p, w) => (p, w ++ [c])

/-- The token of a word at its place in a source that begins at `start`. -/
def tokenOf (start : Position) (word : Place × List Char) : HostToken :=
  ⟨.ident, String.ofList word.2, start.offsetBy word.1⟩

theorem tokens_eq_map (source : List Char) (start : Position) :
    tokens source start = (runs .origin none (codePart source)).map (tokenOf start) := rfl

theorem runs_word {place : Place} (hc : isWordChar c = true) (cs : List Char) :
    runs place word (c :: cs) = runs (place.advance c) (some (grow place c word)) cs := by
  rw [runs.eq_def]
  cases word with
  | none | some => exact if_pos hc

theorem runs_gap {place : Place} (hc : isWordChar c = false) (cs : List Char) :
    runs place word (c :: cs) = word.toList ++ runs (place.advance c) none cs := by
  rw [runs.eq_def]
  exact if_neg (Bool.eq_false_iff.mp hc)

/-- A word character opens a word or is one more of the open word. -/
theorem step_word (source : List Char) (start : Position) (done : List HostToken)
    (h : Opened before noted word) (hc : isWordChar c = true) :
    ∃ noted', Scan.step source start ⟨noted, done⟩ (byteLength before, c) = some ⟨noted', done⟩ ∧
      Opened (before ++ [c]) noted' (some (grow (Place.origin.after before) c word)) := by
  unfold Scan.step
  dsimp only
  rw [hc]
  cases h with
  | none => exact ⟨_, rfl, .word⟩
  | word =>
    rw [List.append_assoc]
    exact ⟨_, rfl, .word⟩

/-- A position in the code of a source is one in the source. -/
theorem positionAt?_codePart (hcode : codePart source = before ++ rest) (start : Position) :
    positionAt? source (byteLength before) start = some (endPosition before start) := by
  rw [← codePart_append source, hcode, List.append_assoc]
  exact positionAt?_byteLength before _ start

/-- Any other character, and the end, closes the open word. Its slice is there, and so is the
position of its first character in the whole source. -/
theorem step_gap (start : Position) (done : List HostToken) (h : Opened before noted word)
    (hc : isWordChar c = false) (hcode : codePart source = before ++ rest) :
    Scan.step source start ⟨noted, done⟩ (byteLength before, c) =
      some ⟨none, done ++ word.toList.map (tokenOf start)⟩ := by
  unfold Scan.step
  dsimp only
  rw [hc]
  cases h with
  | none => simp
  | @word front word =>
    rw [List.append_assoc] at hcode
    have hslice : slice? (codePart source) (byteLength front) (byteLength (front ++ word)) =
        some word := slice?_eq_some.mpr ⟨front, rest, hcode, rfl, rfl⟩
    dsimp only
    rw [hslice, positionAt?_codePart hcode]
    rfl

/-- **What the scan finds** from some character on is what the walk finds there: no slice fails, and
no word is left open at the end. -/
theorem foldlM_step (start : Position) (done : List HostToken) (h : Opened before noted word)
    (hcode : codePart source = before ++ rest) :
    (withOffsets (byteLength before) rest).foldlM (Scan.step source start) ⟨noted, done⟩ =
      some ⟨none, done ++ (runs (Place.origin.after before) word rest).map (tokenOf start)⟩ := by
  induction rest generalizing before noted word done with
  | nil =>
    -- The blank behind the last character closes a word that runs up to the end.
    rw [withOffsets, List.foldlM_cons, step_gap start done h (by decide) hcode]
    rfl
  | cons c cs ih =>
    have hnext : codePart source = (before ++ [c]) ++ cs := by rw [hcode, List.append_assoc]; rfl
    have hoffset : byteLength before + c.utf8Size = byteLength (before ++ [c]) := by simp
    have hplace : (Place.origin.after before).advance c = Place.origin.after (before ++ [c]) := by
      rw [Place.after_append]
      rfl
    rw [withOffsets, List.foldlM_cons, hoffset]
    cases hc : isWordChar c with
    | true =>
      obtain ⟨noted', hstep, hopened⟩ := step_word source start done h hc
      rw [hstep, runs_word hc, hplace]
      exact ih done hopened hnext
    | false =>
      rw [step_gap start done h hc hcode, runs_gap hc, hplace, List.map_append,
        ← List.append_assoc]
      exact ih _ .none hnext

end Steps

/-- The scan never fails, and its words are the tokens. -/
theorem scan?_eq (source : List Char) (start : Position) :
    scan? source start = some (tokens source start) := by
  have hcode : codePart source = [] ++ codePart source := rfl
  have hrun := foldlM_step start [] .none hcode
  rw [scan?, ← byteLength_nil, hrun, tokens_eq_map]
  rfl

/-! ## Words and gaps -/

/-- **Nothing is lost between the words**: with the gaps before, between and after them they are the
text. -/
theorem Cuts.exists_gaps {place : Place} {text : List Char} {words : List (Place × List Char)}
    (h : Cuts place text words) :
    ∃ gaps last, gaps.length = words.length ∧
      (∀ gap ∈ last :: gaps, ∀ c ∈ gap, isWordChar c = false) ∧
      text = (List.zipWith (fun gap word => gap ++ word.2) gaps words).flatten ++ last := by
  induction h with
  | @gap _ gap hgap => exact ⟨[], gap, rfl, by simpa using hgap, rfl⟩
  | @word _ gap word _ words hgap _ _ _ _ ih =>
    obtain ⟨gaps, last, hlength, hgaps, rfl⟩ := ih
    refine ⟨gap :: gaps, last, congrArg (· + 1) hlength, fun other hother => ?_, by simp⟩
    simp only [List.mem_cons] at hother hgaps
    rcases hother with rfl | rfl | hother
    · exact hgaps _ (.inl rfl)
    · exact hgap
    · exact hgaps other (.inr hother)

/-- The tokens are the words of `code`, the first part of a source that begins at `start`. -/
structure WordsOf (source code : List Char) (start : Position) (tokens : List HostToken) :
    Prop where
  /-- The words are the maximal runs of word characters, which are not empty, each at the position
  of its first character in the whole source. -/
  mem_iff : ∀ t, t ∈ tokens ↔
    ∃ before word after p, code = before ++ (word ++ after) ∧ IsRun before word after ∧
      positionAt? source (byteLength before) start = some p ∧ t = ⟨.ident, String.ofList word, p⟩
  ordered : tokens.Pairwise fun a b => a.position < b.position
  /-- The words and the text between them, which has no word characters, are the code. -/
  gaps : ∃ gaps last, gaps.length = tokens.length ∧
    (∀ gap ∈ last :: gaps, ∀ c ∈ gap, isWordChar c = false) ∧
    code = (List.zipWith (fun gap t => gap ++ t.text.toList) gaps tokens).flatten ++ last

theorem wordsOf_tokens (source : List Char) (start : Position) :
    WordsOf source (codePart source) start (tokens source start) where
  mem_iff t := by
    rw [tokens_eq_map, List.mem_map]
    constructor
    · rintro ⟨⟨p, word⟩, hmem, rfl⟩
      obtain ⟨before, after, hcode, hrun, rfl⟩ := (cuts_runs .origin _).mem_iff.mp hmem
      exact ⟨before, word, after, _, hcode, hrun, positionAt?_codePart hcode start, rfl⟩
    · rintro ⟨before, word, after, p, hcode, hrun, hp, rfl⟩
      rw [positionAt?_codePart hcode] at hp
      obtain rfl := Option.some.inj hp
      exact ⟨_, (cuts_runs .origin _).mem_iff.mpr ⟨before, after, hcode, hrun, rfl⟩, rfl⟩
  ordered := tokens_pairwise source start
  gaps := by
    obtain ⟨gaps, last, hlength, hgaps, hcode⟩ :=
      (cuts_runs .origin (codePart source)).exists_gaps
    refine ⟨gaps, last, by rw [tokens_eq_map, List.length_map, hlength], hgaps, ?_⟩
    rw [tokens_eq_map, List.zipWith_map_right]
    simpa [tokenOf] using hcode

/-- **The tokens of a source** that is accepted are the words of its first part, which ends before
the first number sign. Finding them by byte offsets never takes a slice inside a character. -/
theorem parse_words {rejections : List Rejection} {code : String}
    (h : rejection? rejections code = none) (start : Position) :
    ∃ parsed text after, (frontEnd rejections).parse code start = .ok parsed ∧
      code.toList = text ++ after ∧ '#' ∉ text ∧ (∀ c ∈ after.head?, c = '#') ∧
      WordsOf code.toList text start parsed.tokens ∧
      scan? code.toList start = some parsed.tokens := by
  refine ⟨⟨tokens code.toList start, forms code.toList start, endPosition code.toList start⟩,
    codePart code.toList, code.toList.dropWhile (· != '#'), ?_,
    (codePart_append code.toList).symm, not_mem_takeWhile_field, dropWhile_field,
    wordsOf_tokens code.toList start, scan?_eq code.toList start⟩
  change parse rejections code start = _
  unfold parse
  rw [h]

/-- A word at the end of the code, words with characters of several bytes, and separators that stand
next to one another, on two lines. -/
theorem parse_words_sample :
    rejection? [⟨"a", true, "no"⟩] " é_1+\n ß# w" = none ∧
      scan? " é_1+\n ß# w".toList ⟨3, 4⟩ =
        some [⟨.ident, "é_1", ⟨3, 5⟩⟩, ⟨.ident, "ß", ⟨4, 2⟩⟩] ∧
      ∃ parsed text after,
        (frontEnd [⟨"a", true, "no"⟩]).parse " é_1+\n ß# w" ⟨3, 4⟩ = .ok parsed ∧
        " é_1+\n ß# w".toList = text ++ after ∧ '#' ∉ text ∧ (∀ c ∈ after.head?, c = '#') ∧
        WordsOf " é_1+\n ß# w".toList text ⟨3, 4⟩ parsed.tokens ∧
        scan? " é_1+\n ß# w".toList ⟨3, 4⟩ = some parsed.tokens := by
  have haccepted : rejection? [⟨"a", true, "no"⟩] " é_1+\n ß# w" = none := by decide
  exact ⟨haccepted, by decide +kernel, parse_words haccepted ⟨3, 4⟩⟩

end Words

end PegCheck
