import PegCheck.Host.Comments
import PegCheck.Host.Literal
import PegCheck.Proofs.Text.Fields
import Mathlib

/-!
# Where literals end

Literals are read twice: as tokens, with every escape checked, and by the scanner for comments,
which only wants to know where they end. Whenever the first reader accepts a literal, the second
finds the same end; behind it a suffix may follow.

* `Takes`: a text is used up to some rest by characters of one sort.
* `IsName`: an identifier that is followed by a given rest.
* `Closes`: a scanner finds the end of what it scans right before a given rest.
* `closes_stringRest?`, `closes_rawBodyRest?`: strings, with and without escapes.
* `closes_characterRest?`: characters; a quote or a newline that is not escaped is a character to
  the first reader only.
* `takes_numberRest?`: a number has neither quotes nor slashes nor number signs.
* **`isLiteral_rest?`**: whatever is read as a literal is one of the forms of `IsLiteral`.
-/

namespace PegCheck.Host

/-- The text is `rest` after characters that all pass the test `p`. -/
def Takes (p : Char → Bool) (cs rest : List Char) : Prop :=
  ∃ taken, cs = taken ++ rest ∧ ∀ c ∈ taken, p c = true

/-- No character that continues an identifier stands at the head of the text. -/
def EndsIdentifier (rest : List Char) : Prop :=
  ∀ c ∈ rest.head?, Text.isIdentifierContinue c = false

section Takes

variable {p q : Char → Bool} {a b c : List Char}

theorem Takes.refl (p : Char → Bool) (cs : List Char) : Takes p cs cs := ⟨[], rfl, nofun⟩

theorem Takes.cons {d : Char} (hd : p d = true) (h : Takes p a b) : Takes p (d :: a) b := by
  obtain ⟨taken, rfl, htaken⟩ := h
  exact ⟨d :: taken, rfl, List.forall_mem_cons.mpr ⟨hd, htaken⟩⟩

theorem Takes.trans (h : Takes p a b) (h' : Takes p b c) : Takes p a c := by
  obtain ⟨s, rfl, hs⟩ := h
  obtain ⟨t, rfl, ht⟩ := h'
  exact ⟨s ++ t, (List.append_assoc ..).symm, List.forall_mem_append.mpr ⟨hs, ht⟩⟩

theorem Takes.mono (hpq : ∀ c, p c = true → q c = true) (h : Takes p a b) : Takes q a b := by
  obtain ⟨taken, rfl, htaken⟩ := h
  exact ⟨taken, rfl, fun c hc => hpq c (htaken c hc)⟩

theorem takes_dropWhile (p : Char → Bool) (cs : List Char) : Takes p cs (cs.dropWhile p) :=
  ⟨cs.takeWhile p, List.takeWhile_append_dropWhile.symm, fun _ => List.mem_takeWhile_imp⟩

end Takes

/-! ## Identifiers and suffixes -/

theorem isIdentifierContinue_of_start {c : Char} (h : Text.isIdentifierStart c = true) :
    Text.isIdentifierContinue c = true := by
  unfold Text.isIdentifierStart at h
  unfold Text.isIdentifierContinue
  split at h
  · rename_i hc
    rw [if_pos hc]
    simp only [Char.isAlphanum, Bool.or_eq_true] at h ⊢
    exact h.imp_left .inl
  · rename_i hc
    rw [if_neg hc, h, Bool.true_or]

theorem endsIdentifier_dropWhile (cs : List Char) :
    EndsIdentifier (cs.dropWhile Text.isIdentifierContinue) := dropWhile_stop

/-- The text of a name before a given rest: a character that begins an identifier, then as many as
continue it. -/
def IsName (text after : List Char) : Prop :=
  ∃ c more, text = c :: more ∧ Text.isIdentifierStart c = true ∧
    (∀ d ∈ more, Text.isIdentifierContinue d = true) ∧ EndsIdentifier after

theorem isName_identifierRest? {cs rest : List Char} (h : identifierRest? cs = some rest) :
    ∃ text, cs = text ++ rest ∧ IsName text rest := by
  cases cs with
  | nil => nomatch h
  | cons c more =>
    obtain ⟨hc, hrest⟩ := Option.ite_none_right_eq_some.mp h
    obtain rfl := Option.some.inj hrest
    obtain ⟨taken, hmore, htaken⟩ := takes_dropWhile Text.isIdentifierContinue more
    exact ⟨c :: taken, by rw [List.cons_append, ← hmore], c, taken, rfl, hc, htaken,
      endsIdentifier_dropWhile more⟩

theorem IsName.ne_nil {text after : List Char} (h : IsName text after) : text ≠ [] := by
  obtain ⟨c, more, rfl, -⟩ := h
  exact List.cons_ne_nil c more

theorem IsName.continues {text after : List Char} (h : IsName text after) :
    ∀ c ∈ text, Text.isIdentifierContinue c = true := by
  obtain ⟨c, more, rfl, hc, hmore, -⟩ := h
  exact List.forall_mem_cons.mpr ⟨isIdentifierContinue_of_start hc, hmore⟩

theorem IsName.ends {text after : List Char} (h : IsName text after) : EndsIdentifier after := by
  obtain ⟨c, more, -, -, -, hends⟩ := h
  exact hends

namespace Literal

/-- A suffix before a given rest: a name or nothing. -/
def IsSuffix (suffix after : List Char) : Prop := suffix = [] ∨ IsName suffix after

theorem exists_suffix (cs : List Char) :
    ∃ suffix, cs = suffix ++ afterSuffix cs ∧ IsSuffix suffix (afterSuffix cs) := by
  unfold afterSuffix
  cases h : identifierRest? cs with
  | none => exact ⟨[], rfl, .inl rfl⟩
  | some rest =>
    obtain ⟨suffix, hcs, hsuffix⟩ := isName_identifierRest? h
    exact ⟨suffix, hcs, .inr hsuffix⟩

/-! ## Strings -/

open Comments

/-- The scanner `tail?` finds the end of the text right before `rest`; the last character that it
takes is part of no word. -/
def Closes (tail? : List Char → Option Nat) (cs rest : List Char) : Prop :=
  ∃ body mark, cs = body ++ mark :: rest ∧ Comments.isWordPart mark = false ∧
    tail? cs = some (body.length + 1)

theorem Closes.one {tail? : List Char → Option Nat} {c : Char} {cs rest : List Char}
    (hstep : tail? (c :: cs) = (tail? cs).map (· + 1)) (h : Closes tail? cs rest) :
    Closes tail? (c :: cs) rest := by
  obtain ⟨body, mark, rfl, hmark, htail⟩ := h
  exact ⟨c :: body, mark, rfl, hmark, by rw [hstep, htail]; rfl⟩

/-- The part that a scanner takes is the one before the rest. -/
theorem Closes.tail?_eq {tail? : List Char → Option Nat} {closed rest : List Char}
    (h : Closes tail? (closed ++ rest) rest) : tail? (closed ++ rest) = some closed.length := by
  obtain ⟨body, mark, hcut, -, htail⟩ := h
  have hclosed : closed = body ++ [mark] := by
    rw [List.append_cons] at hcut
    exact List.append_cancel_right hcut
  rw [htail, hclosed, List.length_append]
  rfl

/-- A character without a meaning of its own in strings and characters. -/
def isPlain (c : Char) : Bool := !(c == '"' || c == '\\' || c == '\'' || c == '\n')

theorem isPlain_iff {c : Char} : isPlain c = true ↔ c ≠ '"' ∧ c ≠ '\\' ∧ c ≠ '\'' ∧ c ≠ '\n' := by
  simp only [isPlain, Bool.not_eq_true', Bool.or_eq_false_iff, beq_eq_false_iff_ne, and_assoc]

theorem isPlain_of_isHex {c : Char} (h : isHex c = true) : isPlain c = true := by
  rw [isPlain_iff]
  refine ⟨?_, ?_, ?_, ?_⟩ <;>
  · rintro rfl
    revert h
    decide

theorem closes_quote (rest : List Char) : Closes stringTail? ('"' :: rest) rest :=
  ⟨[], '"', rfl, rfl, by rw [stringTail?]; rfl⟩

theorem Closes.cons {c : Char} {cs rest : List Char} (hquote : c ≠ '"') (hslash : c ≠ '\\')
    (h : Closes stringTail? cs rest) : Closes stringTail? (c :: cs) rest := by
  refine Closes.one ?_ h
  rw [stringTail?]
  · exact hquote
  · exact fun _ _ hc => absurd hc hslash
  · exact fun hc => absurd hc hslash

theorem Closes.plain {cs mid rest : List Char} (ht : Takes isPlain cs mid)
    (h : Closes stringTail? mid rest) : Closes stringTail? cs rest := by
  obtain ⟨taken, rfl, htaken⟩ := ht
  induction taken with
  | nil => exact h
  | cons c taken ih =>
    obtain ⟨hc, htaken⟩ := List.forall_mem_cons.mp htaken
    obtain ⟨hquote, hslash, -, -⟩ := isPlain_iff.mp hc
    exact (ih htaken).cons hquote hslash

theorem Closes.escape {c : Char} {cs rest : List Char} (h : Closes stringTail? cs rest) :
    Closes stringTail? ('\\' :: c :: cs) rest := by
  obtain ⟨body, mark, rfl, hmark, htail⟩ := h
  exact ⟨'\\' :: c :: body, mark, rfl, hmark, by rw [stringTail?, htail]; rfl⟩

theorem takes_bracedRest? {taken value n : Nat} {cs rest : List Char}
    (h : bracedRest? taken value cs = some (n, rest)) : Takes isPlain cs rest := by
  induction cs generalizing taken value with
  | nil => cases h
  | cons c cs ih =>
    rw [bracedRest?] at h
    split at h
    · rename_i hc
      split at h
      · cases h
      · exact (ih h).cons (isPlain_of_isHex hc)
    · split at h
      · cases h
      · split at h
        · rename_i hc
          exact (ih h).cons (by rw [hc]; rfl)
        · split at h
          · rename_i hc
            obtain ⟨hbrace, -⟩ := (Bool.and_eq_true _ _).mp hc
            obtain rfl := of_decide_eq_true hbrace
            obtain ⟨-, rfl⟩ := Prod.mk.inj (Option.some.inj h)
            exact (Takes.refl _ _).cons rfl
          · cases h

/-- An escape is one character, whatever it is, and plain ones. -/
theorem escapeRest?_eq_some {f : Family} {cs rest : List Char} (h : escapeRest? f cs = some rest) :
    ∃ c more, cs = c :: more ∧ c ≠ '\n' ∧ Takes isPlain more rest := by
  unfold escapeRest? at h
  split at h
  · rename_i a b more
    obtain ⟨hallowed, hrest⟩ := Option.ite_none_right_eq_some.mp h
    obtain rfl := Option.some.inj hrest
    have hab : isPlain a = true ∧ isPlain b = true := by
      cases f with
      | text =>
        simp only [Bool.and_eq_true] at hallowed
        obtain ⟨⟨hlow, hhigh⟩, hb⟩ := hallowed
        refine ⟨isPlain_iff.mpr ⟨?_, ?_, ?_, ?_⟩, isPlain_of_isHex hb⟩ <;>
        · rintro rfl
          revert hlow hhigh
          decide
      | bytes =>
        obtain ⟨ha, hb⟩ := (Bool.and_eq_true _ _).mp hallowed
        exact ⟨isPlain_of_isHex ha, isPlain_of_isHex hb⟩
      | terminated =>
        simp only [Bool.and_eq_true] at hallowed
        exact ⟨isPlain_of_isHex hallowed.1.1, isPlain_of_isHex hallowed.1.2⟩
    exact ⟨'x', a :: b :: more, rfl, by decide, ((Takes.refl _ _).cons hab.2).cons hab.1⟩
  · rename_i more
    have hbraced : ∃ value, bracedRest? 0 0 more = some (value, rest) := by
      split at h
      · nomatch h
      · rename_i value rest' hb
        obtain ⟨-, hrest⟩ := Option.ite_none_left_eq_some.mp h
        exact ⟨value, hb.trans (by rw [Option.some.inj hrest])⟩
      · rename_i value rest' hb
        exact ⟨value, hb.trans (by rw [Option.some.inj h])⟩
      · nomatch h
    obtain ⟨value, hb⟩ := hbraced
    exact ⟨'u', '{' :: more, rfl, by decide, (takes_bracedRest? hb).cons rfl⟩
  · rename_i c more _ _
    obtain ⟨hc, hrest⟩ := Option.ite_none_right_eq_some.mp h
    obtain rfl := Option.some.inj hrest
    refine ⟨c, more, rfl, ?_, Takes.refl _ _⟩
    rintro rfl
    revert hc
    cases f <;> decide
  · nomatch h

/-- One character of a string, escaped or not, moves the end of the string by as much. -/
theorem Closes.unit {f : Family} {c : Char} {cs mid rest : List Char}
    (hu : unit? f (c :: cs) = some mid) (hc : c ≠ '"') (h : Closes stringTail? mid rest) :
    Closes stringTail? (c :: cs) rest := by
  unfold unit? at hu
  split at hu
  · obtain rfl := Option.some.inj hu
    rename_i heq
    rw [heq]
    exact (h.cons (by decide) (by decide)).cons (by decide) (by decide)
  · nomatch hu
  · obtain rfl := Option.some.inj hu
    rename_i heq
    rw [heq]
    exact h.escape
  · obtain rfl := Option.some.inj hu
    rename_i heq
    rw [heq]
    exact (h.cons (by decide) (by decide)).escape
  · rename_i heq
    rw [heq]
    obtain ⟨d, more, rfl, -, htakes⟩ := escapeRest?_eq_some hu
    exact (Closes.plain htakes h).escape
  · rename_i d more _ _ _ _ hslash heq
    obtain ⟨rfl, rfl⟩ := List.cons.inj heq
    have hmid : mid = cs := by
      cases f with
      | text => exact (Option.some.inj hu).symm
      | bytes => exact (Option.some.inj (Option.ite_none_right_eq_some.mp hu).2).symm
      | terminated => exact (Option.some.inj (Option.ite_none_left_eq_some.mp hu).2).symm
    exact (hmid ▸ h).cons hc hslash
  · nomatch hu

/-- **Strings** end where the scanner says. -/
theorem closes_stringRest? {f : Family} {cs rest : List Char} (h : stringRest? f cs = some rest) :
    ∃ q, Closes stringTail? cs q ∧ rest = afterSuffix q := by
  induction hn : cs.length using Nat.strong_induction_on generalizing cs with
  | _ n ih =>
    cases cs with
    | nil => rw [stringRest?] at h; cases h
    | cons c cs =>
      rw [stringRest?] at h
      split at h
      · rename_i hc
        subst hc
        exact ⟨cs, closes_quote cs, (Option.some.inj h).symm⟩
      · rename_i hc
        split at h
        · rename_i mid hu
          obtain ⟨q, hq, hrest⟩ := ih mid.length (hn ▸ unit?_length hu) h rfl
          exact ⟨q, Closes.unit hu hc hq, hrest⟩
        · cases h

/-! ## Raw strings -/

theorem closes_rawMark {hashes : Nat} {cs : List Char}
    (h : (List.replicate hashes '#').isPrefixOf cs = true) :
    Closes (rawTail? hashes) ('"' :: cs) (cs.drop hashes) := by
  have htail : rawTail? hashes ('"' :: cs) = some (hashes + 1) := by
    rw [rawTail?, if_pos (by rw [h]; rfl)]
  obtain ⟨rest, rfl⟩ := List.isPrefixOf_iff_prefix.mp h
  rw [List.drop_left' List.length_replicate]
  cases hashes with
  | zero => exact ⟨[], '"', rfl, rfl, htail⟩
  | succ n =>
    refine ⟨'"' :: List.replicate n '#', '#', ?_, rfl, ?_⟩
    · rw [List.replicate_succ', List.append_assoc]
      rfl
    · rw [htail, List.length_cons, List.length_replicate]

/-- A character that is no quote is passed over in a raw string. -/
theorem Closes.raw {hashes : Nat} {c : Char} {cs rest : List Char}
    (hc : (c == '"' && (List.replicate hashes '#').isPrefixOf cs) = false)
    (h : Closes (rawTail? hashes) cs rest) : Closes (rawTail? hashes) (c :: cs) rest :=
  Closes.one (by rw [rawTail?, hc]; rfl) h

/-- **Raw strings** end where the scanner says. -/
theorem closes_rawBodyRest? {f : Family} {hashes : Nat} {cs rest : List Char}
    (h : rawBodyRest? f hashes cs = some rest) :
    ∃ q, Closes (rawTail? hashes) cs q ∧ rest = afterSuffix q := by
  fun_induction rawBodyRest? f hashes cs with
  | case1 => nomatch h
  | case2 cs ih =>
    obtain ⟨q, hq, hrest⟩ := ih h
    exact ⟨q, (hq.raw rfl).raw rfl, hrest⟩
  | case3 => nomatch h
  | case4 c cs _ _ hc =>
    obtain ⟨hquote, hhashes⟩ := (Bool.and_eq_true _ _).mp hc
    obtain rfl := eq_of_beq hquote
    exact ⟨_, closes_rawMark hhashes, (Option.some.inj h).symm⟩
  | case5 => nomatch h
  | case6 c cs _ _ hc _ ih =>
    obtain ⟨q, hq, hrest⟩ := ih h
    exact ⟨q, hq.raw (Bool.eq_false_iff.mpr hc), hrest⟩

/-! ## Characters -/

/-- A character ends in a quote, and a suffix may follow. -/
theorem characterRest?_eq_some {f : Family} {cs rest : List Char}
    (h : characterRest? f cs = some rest) :
    ∃ q, rest = afterSuffix q ∧
      ((∃ more, cs = '\\' :: more ∧ escapeRest? f more = some ('\'' :: q)) ∨
        ∃ c, cs = c :: '\'' :: q ∧ c ≠ '\\') := by
  unfold characterRest? at h
  dsimp only at h
  split at h
  · rename_i q hafter
    refine ⟨q, (Option.some.inj h).symm, ?_⟩
    split at hafter
    · exact .inl ⟨_, rfl, hafter⟩
    · rename_i c more hslash
      obtain ⟨-, hmore⟩ := Option.ite_none_left_eq_some.mp hafter
      rw [Option.some.inj hmore]
      exact .inr ⟨c, rfl, hslash⟩
    · nomatch hafter
  · nomatch h

/-- The scanner finds the end of a character that is not escaped. -/
theorem characterTail_plain {c : Char} (hquote : c ≠ '\'') (hslash : c ≠ '\\') (hnewline : c ≠ '\n')
    (rest : List Char) : characterTail (c :: '\'' :: rest) = .ok 2 := by
  rw [characterTail.eq_def]
  simp [hslash, hquote, hnewline]

/-- The scanner finds the end of an escaped character, which has more characters up to the quote. -/
theorem characterTail_escape {c : Char} {more : List Char} (hc : c ≠ '\n')
    (hmore : ∀ d ∈ more, d ≠ '\'' ∧ d ≠ '\n') (rest : List Char) :
    characterTail ('\\' :: c :: (more ++ '\'' :: rest)) = .ok (more.length + 3) := by
  have hinside : ∀ d ∈ more, (d != '\'' && d != '\n') = true := by
    intro d hd
    obtain ⟨hquote, hnewline⟩ := hmore d hd
    rw [Bool.and_eq_true]
    exact ⟨bne_iff_ne.mpr hquote, bne_iff_ne.mpr hnewline⟩
  have hbody : (more ++ '\'' :: rest).takeWhile (fun d => d != '\'' && d != '\n') = more := by
    exact takeWhile_append_stop hinside (by simp)
  rw [characterTail, if_neg (by simpa using hc)]
  simp only [hbody, List.drop_left]

/-- **Characters** end where the scanner says, a lone quote or newline apart. -/
theorem closes_characterRest? {f : Family} {cs rest : List Char}
    (h : characterRest? f cs = some rest) :
    ∃ body q, cs = body ++ '\'' :: q ∧ rest = afterSuffix q ∧
      (characterTail cs = .ok (body.length + 1) ∨ body = ['\''] ∨ body = ['\n']) := by
  obtain ⟨q, hrest, ⟨more, rfl, hescape⟩ | ⟨c, rfl, hslash⟩⟩ := characterRest?_eq_some h
  · -- An escape is one character and plain ones up to the quote.
    obtain ⟨c, more, rfl, hc, taken, rfl, htaken⟩ := escapeRest?_eq_some hescape
    have hplain : ∀ d ∈ taken, d ≠ '\'' ∧ d ≠ '\n' := by
      intro d hd
      obtain ⟨-, -, hquote, hnewline⟩ := isPlain_iff.mp (htaken d hd)
      exact ⟨hquote, hnewline⟩
    exact ⟨'\\' :: c :: taken, q, rfl, hrest, .inl (characterTail_escape hc hplain q)⟩
  · refine ⟨[c], q, rfl, hrest, ?_⟩
    by_cases hquote : c = '\''
    · exact .inr (.inl (by rw [hquote]))
    · by_cases hnewline : c = '\n'
      · exact .inr (.inr (by rw [hnewline]))
      · exact .inl (characterTail_plain hquote hslash hnewline q)

/-! ## Numbers -/

/-- A character that may stand in a number. -/
def isNumberPart (c : Char) : Bool :=
  Text.isIdentifierContinue c || c == '.' || c == '+' || c == '-'

theorem toNat_of_isAlphanum {c : Char} (h : c.isAlphanum = true) :
    48 ≤ c.toNat ∧ c.toNat < 128 := by
  simp only [Char.isAlphanum, Char.isAlpha, Char.isUpper, Char.isLower, Char.isDigit,
    Bool.or_eq_true, Bool.and_eq_true, decide_eq_true_eq, ge_iff_le, UInt32.le_iff_toNat_le] at h
  simp at h
  omega

theorem isAlphanum_of_isHex {c : Char} (h : isHex c = true) : c.isAlphanum = true := by
  simp only [isHex, Char.isAlphanum, Char.isAlpha, Char.isUpper, Char.isLower, Char.isDigit,
    Bool.or_eq_true, Bool.and_eq_true, decide_eq_true_eq, ge_iff_le, UInt32.le_iff_toNat_le,
    Char.le_def] at h ⊢
  simp at h ⊢
  omega

theorem toNat_of_isWordPart {c : Char} (h : isWordPart c = true) :
    48 ≤ c.toNat ∧ c.toNat < 128 := by
  rcases (Bool.or_eq_true _ _).mp h with h | h
  · exact toNat_of_isAlphanum h
  · rw [eq_of_beq h]
    decide

/-- In ASCII the characters inside identifiers are those inside words. -/
theorem isIdentifierContinue_of_isWordPart {c : Char} (h : isWordPart c = true) :
    Text.isIdentifierContinue c = true := by
  rw [Text.isIdentifierContinue, if_pos (toNat_of_isWordPart h).2]
  exact h

theorem isNumberPart_of_continues {c : Char} (h : Text.isIdentifierContinue c = true) :
    isNumberPart c = true := by
  rw [isNumberPart, h]
  rfl

theorem isNumberPart_of_isWordPart {c : Char} (h : isWordPart c = true) :
    isNumberPart c = true :=
  isNumberPart_of_continues (isIdentifierContinue_of_isWordPart h)

theorem isWordPart_of_isDigit {c : Char} (h : c.isDigit = true) : isWordPart c = true := by
  rw [isWordPart, Char.isAlphanum, h, Bool.or_true, Bool.true_or]

theorem isNumberPart_of_isDigit {c : Char} (h : c.isDigit = true) : isNumberPart c = true :=
  isNumberPart_of_isWordPart (isWordPart_of_isDigit h)

theorem isNumberPart_of_isHex {c : Char} (h : isHex c = true) : isNumberPart c = true :=
  isNumberPart_of_isWordPart (by rw [isWordPart, isAlphanum_of_isHex h, Bool.true_or])

theorem isNumberPart_of_isDigitOrGap {c : Char} (h : isDigitOrGap c = true) :
    isNumberPart c = true := by
  rcases (Bool.or_eq_true _ _).mp h with h | h
  · exact isNumberPart_of_isDigit h
  · rw [eq_of_beq h]
    decide

theorem takes_exponentRest? {otherwise : Option (List Char)} {sign digits : Bool}
    {cs rest : List Char} (h : exponentRest? otherwise sign digits cs = some rest) :
    Takes isNumberPart cs rest ∨ otherwise = some rest := by
  fun_induction exponentRest? otherwise sign digits cs with
  | case1 => exact .inl (Option.some.inj h ▸ Takes.refl _ _)
  | case2 => exact .inr h
  | case3 => exact .inr h
  | case4 sign digits c cs hc _ ih =>
    refine (ih h).imp_left (Takes.cons ?_)
    obtain ⟨hc, -⟩ := (Bool.and_eq_true _ _).mp hc
    rcases (Bool.or_eq_true _ _).mp hc with hc | hc <;> rw [eq_of_beq hc] <;> decide
  | case5 _ _ c _ _ hc ih => exact (ih h).imp_left (Takes.cons (isNumberPart_of_isDigit hc))
  | case6 _ _ c _ _ _ hc ih =>
    exact (ih h).imp_left (Takes.cons (by rw [eq_of_beq hc]; decide))
  | case7 => exact .inl (Option.some.inj h ▸ Takes.refl _ _)
  | case8 => exact .inr h

theorem isNumberPart_of_isExponentMark {c : Char} (h : (c == 'e' || c == 'E') = true) :
    isNumberPart c = true := by
  rcases (Bool.or_eq_true _ _).mp h with h | h <;> rw [eq_of_beq h] <;> decide

theorem takes_floatDigitsRest? {cs rest : List Char} (h : floatDigitsRest? cs = some rest) :
    Takes isNumberPart cs rest := by
  have hgaps : ∀ cs : List Char, Takes isNumberPart cs (cs.dropWhile isDigitOrGap) :=
    fun cs => (takes_dropWhile _ cs).mono fun _ => isNumberPart_of_isDigitOrGap
  refine (hgaps cs).trans ?_
  unfold floatDigitsRest? at h
  split at h
  · rename_i fraction heq
    rw [heq]
    refine Takes.cons (by decide) ?_
    dsimp only at h
    obtain ⟨-, h⟩ := Option.ite_none_left_eq_some.mp h
    refine (hgaps fraction).trans ?_
    split at h
    · rename_i c exponent hafter
      rw [hafter] at h ⊢
      split at h
      · rename_i hc
        rcases takes_exponentRest? h with htakes | hend
        · exact htakes.cons (isNumberPart_of_isExponentMark hc)
        · exact Option.some.inj hend ▸ Takes.refl _ _
      · exact Option.some.inj h ▸ Takes.refl _ _
    · rename_i hafter
      rw [hafter]
      exact Option.some.inj h ▸ Takes.refl _ _
  · rename_i c exponent _ heq
    rw [heq]
    obtain ⟨hc, h⟩ := Option.ite_none_right_eq_some.mp h
    rcases takes_exponentRest? h with htakes | hend
    · exact htakes.cons (isNumberPart_of_isExponentMark hc)
    · nomatch hend
  · nomatch h

theorem takes_digitsRest? {base : Nat} {seen : Bool} {cs rest : List Char}
    (h : digitsRest? base seen cs = some rest) : Takes isNumberPart cs rest := by
  fun_induction digitsRest? base seen cs with
  | case1 => exact Option.some.inj h ▸ Takes.refl _ _
  | case2 => nomatch h
  | case3 => nomatch h
  | case4 _ _ _ hc _ ih => exact (ih h).cons (isNumberPart_of_isDigit hc)
  | case5 _ _ _ _ hc ih =>
    exact (ih h).cons (isNumberPart_of_isHex ((Bool.and_eq_true _ _).mp hc).1)
  | case6 => nomatch h
  | case7 _ _ _ _ _ hc _ ih => exact (ih h).cons (by rw [eq_of_beq hc]; decide)
  | case8 => exact Option.some.inj h ▸ Takes.refl _ _
  | case9 => nomatch h

theorem takes_wholeDigitsRest? {cs rest : List Char} (h : wholeDigitsRest? cs = some rest) :
    Takes isNumberPart cs rest := by
  unfold wholeDigitsRest? at h
  split at h
  · exact ((takes_digitsRest? h).cons (by decide)).cons (by decide)
  · exact ((takes_digitsRest? h).cons (by decide)).cons (by decide)
  · exact ((takes_digitsRest? h).cons (by decide)).cons (by decide)
  · exact takes_digitsRest? h

theorem takes_afterNumber? {cs rest : List Char} (h : afterNumber? cs = some rest) :
    Takes isNumberPart cs rest ∧ EndsIdentifier rest := by
  have hsuffix : Takes isNumberPart cs (afterSuffix cs) := by
    obtain ⟨suffix, hcs, rfl | hname⟩ := exists_suffix cs
    · exact ⟨[], hcs, nofun⟩
    · exact ⟨suffix, hcs, fun c hc => isNumberPart_of_continues (hname.continues c hc)⟩
  unfold afterNumber? at h
  split at h
  · rename_i c more heq
    obtain ⟨hc, hrest⟩ := Option.ite_none_left_eq_some.mp h
    obtain rfl := Option.some.inj hrest
    refine ⟨heq ▸ hsuffix, fun d hd => ?_⟩
    obtain rfl := Option.some.inj hd
    exact Bool.eq_false_iff.mpr hc
  · rename_i heq
    obtain rfl := Option.some.inj h
    exact ⟨heq ▸ hsuffix, nofun⟩

/-- **Numbers** are made of the characters of identifiers, points and signs. -/
theorem takes_numberRest? {cs rest : List Char} (h : numberRest? cs = some rest) :
    Takes isNumberPart cs rest ∧ EndsIdentifier rest ∧
      ∃ c more, cs = c :: more ∧ c.isDigit = true := by
  unfold numberRest? at h
  split at h
  · rename_i c more
    obtain ⟨hc, h⟩ := Option.ite_none_right_eq_some.mp h
    have hparts : ∃ mid, Takes isNumberPart (c :: more) mid ∧ afterNumber? mid = some rest := by
      rcases Option.or_eq_some_iff.mp h with h | ⟨-, h⟩
      · obtain ⟨mid, hmid, hafter⟩ := Option.bind_eq_some_iff.mp h
        exact ⟨mid, takes_floatDigitsRest? hmid, hafter⟩
      · obtain ⟨mid, hmid, hafter⟩ := Option.bind_eq_some_iff.mp h
        exact ⟨mid, takes_wholeDigitsRest? hmid, hafter⟩
    obtain ⟨mid, htakes, hafter⟩ := hparts
    obtain ⟨hsuffix, hends⟩ := takes_afterNumber? hafter
    exact ⟨htakes.trans hsuffix, hends, c, more, rfl, hc⟩
  · nomatch h

/-! ## Literals -/

/-- The text of a literal before a given rest. A string or character has a lead, the part between
its quotes and a suffix, and its closing mark stands where the scanner finds it. -/
inductive IsLiteral : List Char → List Char → Prop where
  | string {lead body suffix after : List Char} {mark : Char} (hlead : lead ∈ [[], ['b'], ['c']])
      (hmark : isWordPart mark = false)
      (hend : stringTail? (body ++ mark :: (suffix ++ after)) = some (body.length + 1))
      (hsuffix : IsSuffix suffix after) : IsLiteral (lead ++ '"' :: (body ++ mark :: suffix)) after
  | raw {lead body suffix after : List Char} {mark : Char} {hashes : Nat}
      (hlead : lead ∈ [['r'], ['b', 'r'], ['c', 'r']]) (hmark : isWordPart mark = false)
      (hend : rawTail? hashes (body ++ mark :: (suffix ++ after)) = some (body.length + 1))
      (hsuffix : IsSuffix suffix after) :
      IsLiteral (lead ++ (List.replicate hashes '#' ++ '"' :: (body ++ mark :: suffix))) after
  | character {lead body suffix after : List Char} (hlead : lead ∈ [[], ['b']])
      (hend : characterTail (body ++ '\'' :: (suffix ++ after)) = .ok (body.length + 1) ∨
        body = ['\''] ∨ body = ['\n'])
      (hsuffix : IsSuffix suffix after) :
      IsLiteral (lead ++ '\'' :: (body ++ '\'' :: suffix)) after
  | number {text after : List Char} (htext : text ≠ []) (hparts : ∀ c ∈ text, isNumberPart c = true)
      (hends : EndsIdentifier after) : IsLiteral text after

theorem IsLiteral.ne_nil {text after : List Char} (h : IsLiteral text after) : text ≠ [] := by
  cases h with
  | string | raw | character => simp
  | number htext => exact htext

theorem isLiteral_string {f : Family} (lead : List Char) {cs rest : List Char}
    (hlead : lead ∈ [[], ['b'], ['c']]) (h : stringRest? f cs = some rest) :
    ∃ text, lead ++ '"' :: cs = text ++ rest ∧ IsLiteral text rest := by
  obtain ⟨q, ⟨body, mark, rfl, hmark, hend⟩, rfl⟩ := closes_stringRest? h
  obtain ⟨suffix, hq, hsuffix⟩ := exists_suffix q
  refine ⟨lead ++ '"' :: (body ++ mark :: suffix), ?_, .string hlead hmark ?_ hsuffix⟩
  · simp only [List.append_assoc, List.cons_append, ← hq]
  · rw [← hq, hend]

theorem isLiteral_raw {f : Family} (lead : List Char) {cs rest : List Char}
    (hlead : lead ∈ [['r'], ['b', 'r'], ['c', 'r']]) (h : rawRest? f cs = some rest) :
    ∃ text, lead ++ cs = text ++ rest ∧ IsLiteral text rest := by
  unfold rawRest? at h
  dsimp only at h
  split at h
  · rename_i inside hdrop
    obtain ⟨q, ⟨body, mark, rfl, hmark, hend⟩, rfl⟩ :=
      closes_rawBodyRest? (Option.ite_none_left_eq_some.mp h).2
    obtain ⟨suffix, hq, hsuffix⟩ := exists_suffix q
    have hhashes : cs.takeWhile (· == '#') =
        List.replicate (cs.takeWhile (· == '#')).length '#' :=
      List.eq_replicate_of_mem fun _ hc => eq_of_beq (List.mem_takeWhile_imp (p := (· == '#')) hc)
    have hcs : cs = List.replicate (cs.takeWhile (· == '#')).length '#' ++
        '"' :: (body ++ mark :: q) := by
      rw [← hhashes, ← hdrop, List.prefix_iff_eq_append.mp (List.takeWhile_prefix _)]
    refine ⟨_, ?_, .raw hlead hmark (by rw [← hq, hend]) hsuffix⟩
    simp only [List.append_assoc, List.cons_append, ← hq, ← hcs]
  · nomatch h

theorem isLiteral_character {f : Family} (lead : List Char) {cs rest : List Char}
    (hlead : lead ∈ [[], ['b']]) (h : characterRest? f cs = some rest) :
    ∃ text, lead ++ '\'' :: cs = text ++ rest ∧ IsLiteral text rest := by
  obtain ⟨body, q, rfl, rfl, hend⟩ := closes_characterRest? h
  obtain ⟨suffix, hq, hsuffix⟩ := exists_suffix q
  refine ⟨lead ++ '\'' :: (body ++ '\'' :: suffix), ?_, .character hlead ?_ hsuffix⟩
  · simp only [List.append_assoc, List.cons_append, ← hq]
  · rwa [← hq]

theorem isLiteral_number {cs rest : List Char} (h : numberRest? cs = some rest) :
    ∃ text, cs = text ++ rest ∧ IsLiteral text rest := by
  obtain ⟨⟨text, hcs, hparts⟩, hends, c, more, rfl, hc⟩ := takes_numberRest? h
  refine ⟨text, hcs, .number ?_ hparts hends⟩
  rintro rfl
  have hcontinues := isIdentifierContinue_of_isWordPart (isWordPart_of_isDigit hc)
  rw [hends _ (by rw [← List.nil_append rest, ← hcs]; rfl)] at hcontinues
  nomatch hcontinues

/-- **There are no other literals.** -/
theorem isLiteral_rest? {cs rest : List Char} (h : rest? cs = some rest) :
    ∃ text, cs = text ++ rest ∧ IsLiteral text rest := by
  unfold rest? at h
  split at h
  · exact isLiteral_string [] (by decide) h
  · exact isLiteral_raw ['r'] (by decide) h
  · exact isLiteral_string ['b'] (by decide) h
  · exact isLiteral_raw ['b', 'r'] (by decide) h
  · exact isLiteral_character ['b'] (by decide) h
  · exact isLiteral_string ['c'] (by decide) h
  · exact isLiteral_raw ['c', 'r'] (by decide) h
  · exact isLiteral_character [] (by decide) h
  · exact isLiteral_number h

end Literal

end PegCheck.Host
