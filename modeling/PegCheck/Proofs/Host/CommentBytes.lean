import PegCheck.Proofs.Host.Pieces
import PegCheck.Proofs.Text.Lines

/-!
# Block comments in bytes

Where a block comment ends is found by counting the marks that open and close one. The rule says the
same of the bytes of the text, which nest as the comments do: the rest of a comment is the closing
mark, or an opening mark and two such rests, or a byte at which no mark begins and such a rest. The
bytes of a character outside ASCII are none of those of the marks, so the count over characters goes
as a count over bytes would.

* `ByteTail`: the rest of a block comment, as a list of bytes.
* `byteTail_iff`: read as characters, byte by byte, it is what `BlockTail` says of characters.
* `blockTail?_bytes`: the count ends at the same place in the characters and in the bytes.
* **`tailLength?_endsAt`**: the rest of a block comment is found exactly if the text begins with
  one; there is only one, and it ends between characters.
-/

namespace PegCheck.Comments

open Host.Lexer

/-- The bytes of a text. -/
def bytes (text : List Char) : List UInt8 := text.flatMap String.utf8EncodeChar

/-- What follows the opening mark of a block comment, up to and including its closing mark. The mark
that opens one is the bytes of a slash and of an asterisk, `2F 2A`, and the closing mark `2A 2F`. -/
inductive ByteTail : List UInt8 → Prop where
  | close : ByteTail [0x2A, 0x2F]
  | nest {inner outer : List UInt8} (hinner : ByteTail inner) (houter : ByteTail outer) :
      ByteTail (0x2F :: 0x2A :: (inner ++ outer))
  | byte {b : UInt8} {rest : List UInt8} (hopen : ¬ (b = 0x2F ∧ rest.head? = some 0x2A))
      (hclose : ¬ (b = 0x2A ∧ rest.head? = some 0x2F)) (hrest : ByteTail rest) :
      ByteTail (b :: rest)

/-- The first `n` bytes of a text are the rest of a block comment. -/
def EndsAt (text : List Char) (n : Nat) : Prop :=
  ∃ tail after, bytes text = tail ++ after ∧ ByteTail tail ∧ tail.length = n

/-- The number of bytes of the rest of a block comment that the text begins with. -/
def tailLength? (text : List Char) : Option Nat :=
  (blockTail? 0 text).map fun n => byteLength (text.take n)

/-! ## Bytes as characters -/

/-- Bytes read as one character each. -/
def characters (bs : List UInt8) : List Char := bs.map Char.ofUInt8

theorem ofUInt8_inj {a b : UInt8} (h : Char.ofUInt8 a = Char.ofUInt8 b) : a = b := by
  have hval := congrArg (fun c => c.val.toNat) h
  simpa [Char.ofUInt8, UInt8.toNat_inj] using hval

theorem toNat_ofUInt8 (b : UInt8) : (Char.ofUInt8 b).toNat = b.toNat := by
  simp [Char.ofUInt8, Char.toNat]

theorem characters_inj {a b : List UInt8} (h : characters a = characters b) : a = b :=
  List.map_injective_iff.mpr (fun _ _ => ofUInt8_inj) h

theorem characters_append (a b : List UInt8) :
    characters (a ++ b) = characters a ++ characters b := List.map_append

theorem length_characters (bs : List UInt8) : (characters bs).length = bs.length :=
  List.length_map _

theorem head?_characters {bs : List UInt8} {b : UInt8} :
    (characters bs).head? = some (Char.ofUInt8 b) ↔ bs.head? = some b := by
  cases bs with
  | nil => simp [characters]
  | cons c bs =>
    simp only [characters, List.map_cons, List.head?_cons, Option.some.injEq]
    exact ⟨ofUInt8_inj, congrArg _⟩

/-- Read as characters, the rest of a block comment in bytes is that of one in characters. -/
theorem byteTail_iff {bs : List UInt8} : ByteTail bs ↔ BlockTail (characters bs) := by
  constructor
  · intro h
    induction h with
    | close => exact .close
    | nest _ _ hinner houter =>
      rw [characters, List.map_cons, List.map_cons, List.map_append]
      exact .nest hinner houter
    | byte hopen hclose _ hrest =>
      refine .char ?_ ?_ hrest
      · rintro ⟨hb, hhead⟩
        exact hopen ⟨ofUInt8_inj (b := 0x2F) hb, head?_characters (b := 0x2A).mp hhead⟩
      · rintro ⟨hb, hhead⟩
        exact hclose ⟨ofUInt8_inj (b := 0x2A) hb, head?_characters (b := 0x2F).mp hhead⟩
  · intro h
    generalize hcs : characters bs = cs at h
    induction h generalizing bs with
    | close =>
      obtain rfl := characters_inj (b := [0x2A, 0x2F]) hcs
      exact .close
    | nest _ _ hinner houter =>
      obtain ⟨b, _, rfl, hb, hcs⟩ := List.map_eq_cons_iff.mp hcs
      obtain ⟨c, _, rfl, hc, hcs⟩ := List.map_eq_cons_iff.mp hcs
      obtain ⟨inner, outer, rfl, rfl, rfl⟩ := List.map_eq_append_iff.mp hcs
      obtain rfl := ofUInt8_inj (b := 0x2F) hb
      obtain rfl := ofUInt8_inj (b := 0x2A) hc
      exact .nest (hinner rfl) (houter rfl)
    | char hopen hclose _ hrest =>
      obtain ⟨b, rest, rfl, rfl, rfl⟩ := List.map_eq_cons_iff.mp hcs
      refine .byte ?_ ?_ (hrest rfl)
      · rintro ⟨rfl, hhead⟩
        exact hopen ⟨rfl, head?_characters.mpr hhead⟩
      · rintro ⟨rfl, hhead⟩
        exact hclose ⟨rfl, head?_characters.mpr hhead⟩

/-! ## Characters as bytes -/

theorem bytes_cons (c : Char) (cs : List Char) :
    bytes (c :: cs) = String.utf8EncodeChar c ++ bytes cs := List.flatMap_cons

/-- A character of ASCII is its own byte. -/
theorem characters_utf8EncodeChar {c : Char} (hc : c.toNat < 128) :
    characters (String.utf8EncodeChar c) = [c] := by
  have hv : c.val.toNat ≤ 0x7F := Nat.le_of_lt_succ hc
  rw [String.utf8EncodeChar, if_pos hv, characters, List.map_singleton, List.singleton_inj]
  refine Char.ext (UInt32.toNat_inj.mp ?_)
  simp [Char.ofUInt8]
  omega

/-- The bytes of any other character are those of no character of ASCII. -/
theorem le_of_mem_utf8EncodeChar {c : Char} {b : UInt8} (hc : 128 ≤ c.toNat)
    (hb : b ∈ String.utf8EncodeChar c) : 128 ≤ b.toNat := by
  have hwide : ¬ c.val.toNat ≤ 0x7F := Nat.not_le.mpr hc
  have hbyte : ∀ n, 128 ≤ n → n < 256 → 128 ≤ (UInt8.ofNat n).toNat := fun n hle hlt => by
    rw [UInt8.toNat_ofNat', Nat.mod_eq_of_lt hlt]
    exact hle
  rw [String.utf8EncodeChar, if_neg hwide] at hb
  split at hb
  · simp only [List.mem_cons, List.not_mem_nil, or_false] at hb
    rcases hb with rfl | rfl <;> exact hbyte _ (by omega) (by omega)
  · split at hb
    · simp only [List.mem_cons, List.not_mem_nil, or_false] at hb
      rcases hb with rfl | rfl | rfl <;> exact hbyte _ (by omega) (by omega)
    · simp only [List.mem_cons, List.not_mem_nil, or_false] at hb
      rcases hb with rfl | rfl | rfl | rfl <;> exact hbyte _ (by omega) (by omega)

theorem characters_bytes_cons (c : Char) (cs : List Char) :
    characters (bytes (c :: cs)) =
      characters (String.utf8EncodeChar c) ++ characters (bytes cs) := by
  rw [bytes_cons, characters_append]

/-- A byte that reads as a character of ASCII is the only byte of that character. -/
theorem exists_of_characters_bytes {text after : List Char} {d : Char} (hd : d.toNat < 128)
    (h : characters (bytes text) = d :: after) : ∃ more, text = d :: more := by
  cases text with
  | nil => nomatch h
  | cons c cs =>
    rw [characters_bytes_cons] at h
    by_cases hc : c.toNat < 128
    · rw [characters_utf8EncodeChar hc] at h
      exact ⟨cs, congrArg (· :: cs) (List.cons.inj h).1⟩
    · obtain ⟨b, more, hbytes⟩ := List.exists_cons_of_ne_nil (String.utf8EncodeChar_ne_nil (c := c))
      rw [hbytes] at h
      obtain ⟨rfl, -⟩ := List.cons.inj h
      have hwide := le_of_mem_utf8EncodeChar (Nat.not_lt.mp hc) (hbytes ▸ List.mem_cons_self)
      rw [toNat_ofUInt8] at hd
      omega

/-! ## Counting marks -/

/-- Characters that are in no mark are passed over. -/
theorem blockTail?_append_of_forall {word : List Char} (hword : ∀ c ∈ word, c ≠ '/' ∧ c ≠ '*')
    (depth : Nat) (rest : List Char) :
    blockTail? depth (word ++ rest) = (blockTail? depth rest).map (· + word.length) := by
  induction word with
  | nil => simp
  | cons c cs ih =>
    obtain ⟨hc, hcs⟩ := List.forall_mem_cons.mp hword
    rw [List.cons_append, blockTail?, ih hcs, Option.map_map]
    · rfl
    · exact fun _ heq => absurd heq hc.1
    · exact fun _ heq => absurd heq hc.2

/-- A character at which no mark begins is passed over with all its bytes. -/
theorem blockTail?_bytes_cons {c : Char} {rest : List Char}
    (hopen : ∀ more, c = '/' → rest = '*' :: more → False)
    (hclose : ∀ more, c = '*' → rest = '/' :: more → False) (depth : Nat) :
    blockTail? depth (characters (bytes (c :: rest))) =
      (blockTail? depth (characters (bytes rest))).map (· + c.utf8Size) := by
  rw [characters_bytes_cons]
  by_cases hc : c.toNat < 128
  · have hsize : c.utf8Size = 1 := by
      rw [← String.length_utf8EncodeChar, ← length_characters, characters_utf8EncodeChar hc,
        List.length_singleton]
    rw [characters_utf8EncodeChar hc, List.singleton_append, hsize, blockTail?]
    · intro after hslash heq
      obtain ⟨more, hmore⟩ := exists_of_characters_bytes (by decide) heq
      exact hopen more hslash hmore
    · intro after hstar heq
      obtain ⟨more, hmore⟩ := exists_of_characters_bytes (by decide) heq
      exact hclose more hstar hmore
  · have hword : ∀ d ∈ characters (String.utf8EncodeChar c), d ≠ '/' ∧ d ≠ '*' := by
      intro d hd
      obtain ⟨b, hb, rfl⟩ := List.mem_map.mp hd
      have hwide := le_of_mem_utf8EncodeChar (Nat.not_lt.mp hc) hb
      rw [← toNat_ofUInt8] at hwide
      constructor <;> (rintro heq; rw [heq] at hwide; exact absurd hwide (by decide))
    rw [blockTail?_append_of_forall hword, length_characters, String.length_utf8EncodeChar]

/-- **The count ends at the same place** in the characters of a text and in its bytes. -/
theorem blockTail?_bytes (depth : Nat) (text : List Char) :
    blockTail? depth (characters (bytes text)) =
      (blockTail? depth text).map fun n => byteLength (text.take n) := by
  have hmark : ∀ n a b (rest : List Char), a.utf8Size = 1 → b.utf8Size = 1 →
      byteLength (rest.take n) + 2 = byteLength ((a :: b :: rest).take (n + 2)) := by
    intro n a b rest ha hb
    rw [List.take_succ_cons, List.take_succ_cons, byteLength_cons, byteLength_cons, ha, hb]
    omega
  fun_induction blockTail? depth text with
  | case1 depth rest ih =>
    have hbytes : characters (bytes ('/' :: '*' :: rest)) =
        '/' :: '*' :: characters (bytes rest) := rfl
    rw [hbytes, blockTail?, ih, Option.map_map, Option.map_map]
    exact congrArg (Option.map · _) (funext fun n => hmark n '/' '*' rest rfl rfl)
  | case2 rest => rfl
  | case3 rest depth ih =>
    have hbytes : characters (bytes ('*' :: '/' :: rest)) =
        '*' :: '/' :: characters (bytes rest) := rfl
    rw [hbytes, blockTail?, ih, Option.map_map, Option.map_map]
    exact congrArg (Option.map · _) (funext fun n => hmark n '*' '/' rest rfl rfl)
  | case4 depth c rest hopen hclose ih =>
    rw [blockTail?_bytes_cons hopen hclose, ih, Option.map_map, Option.map_map]
    refine congrArg (Option.map · _) (funext fun n => ?_)
    rw [Function.comp_apply, Function.comp_apply, List.take_succ_cons, byteLength_cons,
      Nat.add_comm]
  | case5 => rfl

/-! ## The rest of a comment -/

/-- **Where a block comment ends.** The rest of one is found exactly if the first bytes of the text
are such a rest. -/
theorem tailLength?_eq_some {text : List Char} {n : Nat} :
    tailLength? text = some n ↔ EndsAt text n := by
  rw [tailLength?, ← blockTail?_bytes, blockTail?_eq_some]
  constructor
  · rintro ⟨_, _, hcs, htail, rfl⟩
    obtain ⟨tail, after, hbytes, rfl, rfl⟩ := List.map_eq_append_iff.mp hcs
    exact ⟨tail, after, hbytes, byteTail_iff.mpr htail, (length_characters tail).symm⟩
  · rintro ⟨tail, after, hbytes, htail, rfl⟩
    exact ⟨characters tail, characters after, by rw [hbytes, characters_append],
      byteTail_iff.mp htail, (length_characters tail).symm⟩

theorem onBoundary_tailLength? {text : List Char} {n : Nat} (h : tailLength? text = some n) :
    OnBoundary text n := by
  obtain ⟨k, -, rfl⟩ := Option.map_eq_some_iff.mp h
  exact ⟨text.take k, text.drop k, (List.take_append_drop k text).symm, rfl⟩

theorem lexeme_opening (text : List Char) :
    lexeme '/' ('*' :: text) = ⟨.unmatched, 1⟩ ↔ tailLength? text = none := by
  rw [tailLength?, Option.map_eq_none_iff]
  cases h : blockTail? 0 text with
  | none => simp [lexeme, h]
  | some n => simp [lexeme, h]

/-- **Block comments nest in bytes.** After the mark that opens a block comment, its rest is found
to have `n` bytes exactly if the first `n` bytes are the rest of a block comment. There is no other
such `n`, and it falls between two characters. Nothing is found, and only the opening mark is passed
over, exactly if no first bytes of the text are the rest of a block comment. -/
theorem tailLength?_endsAt (text : List Char) :
    (∀ n, tailLength? text = some n ↔ EndsAt text n) ∧
      (∀ m n, EndsAt text m → EndsAt text n → m = n) ∧
      (∀ n, EndsAt text n → OnBoundary text n) ∧
      (tailLength? text = none ↔ ∀ n, ¬ EndsAt text n) ∧
      (lexeme '/' ('*' :: text) = ⟨.unmatched, 1⟩ ↔ ∀ n, ¬ EndsAt text n) := by
  have hsome : ∀ n, tailLength? text = some n ↔ EndsAt text n := fun _ => tailLength?_eq_some
  have hnone : tailLength? text = none ↔ ∀ n, ¬ EndsAt text n := by
    rw [Option.eq_none_iff_forall_ne_some]
    exact forall_congr' fun n => not_congr (hsome n)
  refine ⟨hsome, fun m n hm hn => ?_, fun n hn => ?_, hnone, ?_⟩
  · have heq : some m = some n := ((hsome m).mpr hm).symm.trans ((hsome n).mpr hn)
    exact Option.some.inj heq
  · exact onBoundary_tailLength? ((hsome n).mpr hn)
  · exact (lexeme_opening text).trans hnone

/-- An inner comment begins where its own closing mark could begin too, and a star stands before the
last closing mark. -/
example : tailLength? "é/*/ */ **/ x".toList = some 12 ∧ tailLength? "é/*/ x".toList = none := by
  decide

end PegCheck.Comments
