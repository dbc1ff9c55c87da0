import PegCheck.Proofs.Grammar.Slots

/-!
# Expressions and their edits

An expression is read in two goes: once for the tag, and once for the fields of the tag. An edit of
an expression is an edit of a record of the tag alone, and one of a record of the tag's fields.
Which fields count as unknown differs between the two, and neither go sees the edit.

* `Expr.Tag.find_eq_ok`, `Expr.readFields_eq`, `Expr.readItems_eq`: both goes read field by field.
* `Expr.shape_object_iff`, `Expr.shape_array_iff`: what is read in the end.
* `Expr.Tag.record_type`, `Expr.Tag.record_fields`: an edit, as each of the two goes has it.
* `Expr.keeps_editUpTo`: the induction on the depth of the edit.
* **`Expr.keeps`**: no edit is seen, at any depth.
-/

namespace PegCheck.Expr

open Json (Edit)
open Shape (Keeps Slot Step)

/-! ## The tag -/

/-- What the search for the tag does at a field. -/
def Tag.field (m : Manner) : Step (Option Tag) := fun found key v =>
  if key = "type" then Shape.once "type" found (Tag.shape m v) else Shape.ignore v found

theorem Tag.find_eq_ok {m : Manner} {fields : List (String × Json)} {found : Option Tag}
    {tag : Tag} :
    Tag.find m found fields = .ok tag ↔ Step.all (Tag.field m) found fields = .ok (some tag) := by
  induction fields generalizing found with
  | nil => cases found <;> simp [find, Step.all, Shape.required, pure, Except.pure]
  | cons f fields ih =>
    obtain ⟨key, v⟩ := f
    rw [find, Step.all_cons]
    by_cases hkey : key = "type"
    · simp [hkey, Shape.bind_eq_ok, Tag.field, ih]
    · simp [hkey, Shape.bind_eq_ok, Tag.field, ih]

/-- The slot of the tag. -/
def Tag.slots (m : Manner) : List (Slot (Option Tag)) :=
  [.plain "type" id (fun _ x => x) (Tag.shape m)]

theorem Tag.reads_slots (m : Manner) : Step.ReadsInto (Tag.field m) (Tag.slots m) := by
  refine Step.readsInto_of_ignore (List.nodup_singleton _) (List.pairwise_singleton _ _) ?_
    fun key hkey d v => ?_
  · simp [slots, Slot.plain, Slot.edited, field, Slot.fill]
  · simp only [slots, List.map_singleton, List.mem_singleton] at hkey
    exact if_neg hkey

/-- A tag is marked in one way only. -/
theorem Tag.Names.shape_eq {m : Manner} {tag tag' : Tag} {v : Json} (h : tag.Names v)
    (hread : Tag.shape m v = .ok tag') : tag' = tag := by
  cases h with
  | name h =>
    simp only [table, List.mem_cons, Prod.mk.injEq, List.not_mem_nil, or_false] at h
    rcases h with ⟨rfl, rfl⟩ | ⟨rfl, rfl⟩ | ⟨rfl, rfl⟩ | ⟨rfl, rfl⟩ | ⟨rfl, rfl⟩ <;>
      exact (Except.ok.inj hread).symm
  | number h =>
    cases m with
    | direct | whole => nomatch hread
    | buffered =>
      rw [Tag.shape, h] at hread
      exact (Except.ok.inj hread).symm

/-- A value that stands for a tag is no malformed one. -/
theorem Tag.isWellFormed_of_shape {m : Manner} {tag : Tag} {v : Json}
    (h : Tag.shape m v = .ok tag) : v.isWellFormed = true := by
  cases v with
  | array | object | malformed => nomatch h
  | _ => rfl

theorem Tag.isWellFormed_of_find {m : Manner} {found : Option Tag} {tag : Tag}
    {fields : List (String × Json)} (h : Tag.find m found fields = .ok tag) :
    ∀ f ∈ fields, f.2.isWellFormed = true := by
  induction fields generalizing found with
  | nil => exact fun _ hf => absurd hf List.not_mem_nil
  | cons f fields ih =>
    rw [Tag.find_eq_ok, Step.all_cons] at h
    obtain ⟨found', hf, hrest⟩ := h
    refine List.forall_mem_cons.mpr ⟨?_, ih (Tag.find_eq_ok.mpr hrest)⟩
    by_cases hkey : f.1 = "type"
    · rw [hkey] at hf
      have hfill := ((Tag.reads_slots m).step_eq _ List.mem_cons_self found f.2).symm.trans hf
      obtain ⟨-, x, hx, -⟩ := Slot.fill_eq_ok.mp hfill
      exact Tag.isWellFormed_of_shape hx
    · by_contra hbad
      rw [Tag.field, if_neg hkey, Shape.ignore, if_neg hbad] at hf
      cases hf

/-! ## The fields of a tag -/

/-- Reads a field of the tag. -/
def Draft.field (tag : Tag) : Step Draft := fun d key v =>
  if tag.holdsList key then do
    return { d with children := ← Shape.once key d.children (Shape.list shape .buffered v) }
  else if tag == .primary && key == "expr" then do
    return { d with inner := ← Shape.once key d.inner (shape .buffered v) }
  else d.plainField tag key v

theorem readList_eq {items : List Json} : readList items = items.mapM (shape .buffered) := by
  induction items with
  | nil => rfl
  | cons v items ih =>
    rw [readList, ih, List.mapM_cons]

theorem readFields_eq {tag : Tag} {d : Draft} {fields : List (String × Json)} :
    readFields tag d fields = Step.all (Draft.field tag) d fields := by
  induction fields generalizing d with
  | nil => rfl
  | cons f fields ih =>
    obtain ⟨key, v⟩ := f
    rw [readFields.eq_def, Step.all_cons_eq]
    simp only [ih, Draft.field]
    split
    · simp only [bind_assoc, pure_bind]
      cases v with
      | array items => rw [Shape.list, ← readList_eq]
      | _ => rfl
    · split
      · simp only [bind_assoc, pure_bind]
      · rfl

/-- An item is read as the field of its place, which is still empty. -/
theorem readItems_cons {tag : Tag} {d : Draft} {key : String} {v : Json} {keys : List String}
    {items : List Json} (hchildren : tag.holdsList key = true → d.children = none)
    (hinner : (tag == .primary && key == "expr") = true → d.inner = none) :
    readItems tag d (key :: keys) (v :: items) =
      Draft.field tag d key v >>= fun e => readItems tag e keys items := by
  rw [readItems.eq_def, Draft.field]
  dsimp only
  split
  · rename_i h
    rw [hchildren h]
    cases v with
    | array items =>
      rw [Shape.list, ← readList_eq]
      dsimp only
      cases readList items <;> rfl
    | _ => rfl
  · split
    · rename_i h
      rw [hinner h]
      cases shape .buffered v <;> rfl
    · rfl

theorem readItems_nil {tag : Tag} {d : Draft} {keys : List String} :
    readItems tag d keys [] = .ok d := by
  cases keys <;> rw [readItems.eq_def]

theorem readItems_eq {tag : Tag} {items : List Json} :
    readItems tag {} tag.fields items = Step.all (Draft.field tag) {} (tag.fields.zip items) := by
  rcases items with _ | ⟨v, items⟩
  · rw [readItems_nil, List.zip_nil_right]
    rfl
  · cases tag with
    | choice | sequence =>
      rw [Tag.fields, readItems_cons (fun _ => rfl) (fun _ => rfl), List.zip_cons_cons,
        Step.all_cons_eq]
      refine bind_congr fun d => ?_
      rw [readItems.eq_def]
      rfl
    | primary | nonterminal | terminal =>
      rw [Tag.fields, readItems_cons (fun _ => rfl) (fun _ => rfl), List.zip_cons_cons,
        Step.all_cons_eq]
      refine bind_congr fun d => ?_
      rcases items with _ | ⟨w, items⟩
      · rw [readItems_nil]
        rfl
      · rw [readItems_cons (fun h => absurd h (by decide)) (fun h => absurd h (by decide)),
          List.zip_cons_cons, Step.all_cons_eq]
        refine bind_congr fun d => ?_
        rw [readItems.eq_def]
        rfl

/-- The slot of a list of expressions. -/
def childrenSlot {inner : Edit} (key : String) (h : Keeps (shape .buffered) inner) : Slot Draft :=
  .edited key (·.children) (fun d x => { d with children := x })
    (Shape.keeps_list h)

/-- The slot of a modifier. -/
def modifierSlot : Slot Draft :=
  .plain "modifier" (·.modifier) (fun d x => { d with modifier := x })
    (Shape.nullable (Shape.bareName Modifier.table) .buffered)

/-- The slots of the fields of a tag. -/
def slots {inner : Edit} (h : Keeps (shape .buffered) inner) : Tag → List (Slot Draft)
  | .choice => [childrenSlot "alternatives" h]
  | .sequence => [childrenSlot "items" h]
  | .primary =>
    [.edited "expr" (·.inner) (fun d x => { d with inner := x }) h,
     modifierSlot]
  | .nonterminal =>
    [.plain "name" (·.name) (fun d x => { d with name := x }) (Shape.text .buffered),
     .edited "index" (·.index) (fun d x => { d with index := x }) (Position.keeps .buffered)]
  | .terminal =>
    [.plain "kind" (·.kind) (fun d x => { d with kind := x })
       (Shape.bareName TerminalKind.table .buffered),
     .plain "text" (·.text) (fun d x => { d with text := x }) (Shape.text .buffered)]

section Slots

variable {inner : Edit} (h : Keeps (shape .buffered) inner) (tag : Tag)

theorem edits_slots : Shape.edits (slots h tag) = tag.edits inner := by cases tag <;> rfl

theorem keys_slots : (slots h tag).map (·.key) = tag.fields := by cases tag <;> rfl

/-- Fields of other names are passed over, whatever their values are. -/
theorem Draft.field_of_not_mem {tag : Tag} {key : String} (hkey : key ∉ tag.fields) (d : Draft)
    (v : Json) : Draft.field tag d key v = .ok d := by
  have hlist : tag.holdsList key = false := by
    cases tag <;> simp_all [Tag.fields, Tag.holdsList]
  have hinner : (tag == .primary && key == "expr") = false := by
    cases tag <;> simp_all [Tag.fields]
  simp only [field, hlist, hinner, Bool.false_eq_true, if_false]
  unfold plainField
  split <;> simp_all [Tag.fields]

theorem reads_slots : Step.ReadsInto (Draft.field tag) (slots h tag) where
  nodup := by
    rw [keys_slots]
    cases tag <;> decide
  apart := by
    cases tag with
    | choice | sequence => exact List.pairwise_singleton _ _
    | primary | nonterminal | terminal =>
      refine List.pairwise_pair.mpr ?_
      constructor <;> intros <;> rfl
  step_eq := by
    cases tag with
    | choice | sequence => exact List.forall_mem_singleton.mpr fun _ _ => rfl
    | primary | nonterminal | terminal =>
      exact List.forall_mem_cons.mpr ⟨fun _ _ => rfl, List.forall_mem_singleton.mpr fun _ _ => rfl⟩
  pass key hkey d d' v hread := by
    rw [keys_slots] at hkey
    rw [Draft.field_of_not_mem hkey] at hread
    exact ⟨(Except.ok.inj hread).symm, fun e => Draft.field_of_not_mem hkey e v⟩
  pass_of_isWellFormed key hkey d v _ := by
    rw [keys_slots] at hkey
    exact Draft.field_of_not_mem hkey d v

theorem empty_slots : ∀ s ∈ slots h tag, s.get {} = none := by
  cases tag <;> simp [slots, childrenSlot, modifierSlot, Slot.plain, Slot.edited]

theorem takesNull_slots :
    ∀ key ∈ tag.optional, ∃ s ∈ slots h tag, s.key = key ∧ s.TakesNull (Draft.finish tag) := by
  cases tag with
  | primary =>
    refine List.forall_mem_singleton.mpr ⟨modifierSlot, by simp [slots], rfl, none, rfl, ?_⟩
    rintro ⟨children, inner, _, name, index, kind, text⟩ rfl
    rfl
  | choice | sequence | nonterminal | terminal => exact fun _ hkey => absurd hkey List.not_mem_nil

end Slots

/-! ## The two goes -/

theorem shape_object_iff {m : Manner} {fields : List (String × Json)} {e : Expr} :
    shape m (.object fields) = .ok e ↔ ∃ tag, Tag.find m none fields = .ok tag ∧
      ∃ d, Step.all (Draft.field tag) {} fields = .ok d ∧ d.finish tag = .ok e := by
  rw [shape, Shape.bind_eq_ok]
  simp only [Shape.bind_eq_ok, readFields_eq]

/-- Only the modifier of a primary may be missing from the list of the values. -/
theorem Tag.needed_le_iff {tag : Tag} {given : Nat} :
    (if tag = .primary then 1 else tag.fields.length) ≤ given ↔
      ∀ key ∈ tag.fields.drop given, key ∈ tag.optional := by
  rcases given with _ | _ | given
  · cases tag <;> decide
  · cases tag <;> decide
  · cases tag <;> simp [fields]

theorem Draft.finishItems_eq_ok {tag : Tag} {given : Nat} {d : Draft} {e : Expr} :
    d.finishItems tag given = .ok e ↔ given ≤ tag.fields.length ∧
      (∀ key ∈ tag.fields.drop given, key ∈ tag.optional) ∧ d.finish tag = .ok e := by
  rw [← Tag.needed_le_iff, finishItems]
  dsimp only
  by_cases hfew : given < if tag = .primary then 1 else tag.fields.length
  · rw [if_pos hfew]
    exact ⟨nofun, fun h => absurd h.2.1 (Nat.not_le.mpr hfew)⟩
  · rw [if_neg hfew]
    by_cases hmany : given > tag.fields.length
    · rw [if_pos hmany]
      exact ⟨nofun, fun h => absurd h.1 (Nat.not_le.mpr hmany)⟩
    · rw [if_neg hmany]
      exact ⟨fun h => ⟨Nat.le_of_not_lt hmany, Nat.le_of_not_lt hfew, h⟩, fun h => h.2.2⟩

theorem shape_array_iff {m : Manner} {v : Json} {items : List Json} {e : Expr} :
    shape m (.array (v :: items)) = .ok e ↔ ∃ tag, Tag.shape m v = .ok tag ∧
      Json.isWellFormedList items = true ∧
      Step.ReadsItems (Draft.field tag) tag.fields tag.optional {} (Draft.finish tag) items e := by
  rw [shape, Shape.bind_eq_ok]
  refine exists_congr fun tag => and_congr_right fun _ => ?_
  dsimp only
  cases hform : Json.isWellFormedList items with
  | false => exact ⟨nofun, nofun⟩
  | true =>
    rw [readItems_eq, Step.ReadsItems]
    simp only [Bool.not_true, Bool.false_eq_true, if_false, true_and, Shape.bind_eq_ok,
      Draft.finishItems_eq_ok]
    constructor
    · rintro ⟨d, hd, hlength, hmissing, hfinish⟩
      exact ⟨hlength, hmissing, d, hd, hfinish⟩
    · rintro ⟨hlength, hmissing, d, hd, hfinish⟩
      exact ⟨d, hd, hlength, hmissing, hfinish⟩

/-! ## Edits -/

section Edits

variable {inner : Edit} {m : Manner} {tag : Tag} {e : Expr}

theorem Tag.ne_type_of_mem : ∀ f ∈ tag.edits inner, f.1 ≠ "type" := by
  cases tag <;> simp [edits]

/-- For the search of the tag, the edit is one of a record of the tag alone. -/
theorem Tag.record_type {old new : List (String × Json)}
    (hedit : tag.edit inner (.object old) (.object new))
    (hform : ∀ f ∈ new, f.2.isWellFormed = true) :
    Edit.record [("type", .none)] [] (.object old) (.object new) := by
  have hknown {key : String} : Edit.Known [("type", Edit.none)] key = true ↔ key = "type" := by
    simp [Edit.Known]
  refine Edit.record_mono hedit hform (fun key hkey => ?_) (fun f hf hkey => ?_)
    fun key hoptional hkey => ?_
  · obtain rfl := hknown.mp hkey
    exact Edit.known_iff.mpr ⟨_, List.mem_cons_self⟩
  · rcases List.mem_cons.mp hf with rfl | hf
    · exact List.mem_cons_self
    · exact absurd (hknown.mp hkey) (Tag.ne_type_of_mem f hf)
  · obtain rfl := hknown.mp hkey
    exact absurd hoptional (by cases tag <;> decide)

/-- For the fields of the tag, the edit is one of a record of these fields. -/
theorem Tag.record_fields {old new : List (String × Json)}
    (hedit : tag.edit inner (.object old) (.object new))
    (hform : ∀ f ∈ new, f.2.isWellFormed = true) :
    Edit.record (tag.edits inner) tag.optional (.object old) (.object new) := by
  refine Edit.record_mono hedit hform (fun key hkey => ?_) (fun f hf hkey => ?_)
    fun _ hkey _ => hkey
  · obtain ⟨edit, hmem⟩ := Edit.known_iff.mp hkey
    exact Edit.known_iff.mpr ⟨edit, List.mem_cons_of_mem _ hmem⟩
  · rcases List.mem_cons.mp hf with rfl | hf
    · obtain ⟨edit, hmem⟩ := Edit.known_iff.mp hkey
      exact absurd rfl (Tag.ne_type_of_mem _ hmem)
    · exact hf

variable (h : Keeps (shape .buffered) inner) (hform : inner.KeepsForm)

include h hform

theorem keeps_object {old new : List (String × Json)} (hmarks : tag.Marks (.object old))
    (hedit : tag.edit inner (.object old) (.object new))
    (hread : shape m (.object old) = .ok e) : shape m (.object new) = .ok e := by
  obtain ⟨tag', hfind, d, hd, hfinish⟩ := shape_object_iff.mp hread
  have htype := Tag.find_eq_ok.mp hfind
  obtain rfl : tag' = tag := by
    obtain ⟨hmem, hname⟩ := hmarks
    obtain ⟨x, hx, hget⟩ := (Tag.reads_slots m).get_all_of_mem List.mem_cons_self hmem htype
    obtain rfl := Option.some.inj hget
    exact hname.shape_eq hx
  have hnew : ∀ f ∈ new, f.2.isWellFormed = true := by
    have hold : (Json.object old).isWellFormed = true := by
      rw [Json.isWellFormed, Json.isWellFormedFields_iff]
      exact Tag.isWellFormed_of_find hfind
    have hnew := Tag.edit_keepsForm hform tag' _ _ hedit hold
    rwa [Json.isWellFormed, Json.isWellFormedFields_iff] at hnew
  have hfind' : Tag.find m none new = .ok tag' := by
    obtain ⟨found, hall, hfound⟩ := (Tag.reads_slots m).keeps_object (by simp)
      (List.forall_mem_singleton.mpr rfl) (Tag.record_type hedit hnew) htype
      (show Shape.required "type" (some tag') = .ok tag' from rfl)
    cases found with
    | none => nomatch hfound
    | some x =>
      obtain rfl := Except.ok.inj hfound
      exact Tag.find_eq_ok.mpr hall
  have hfields := Tag.record_fields hedit hnew
  rw [← edits_slots h tag'] at hfields
  exact shape_object_iff.mpr ⟨tag', hfind', (reads_slots h tag').keeps_object
    (takesNull_slots h tag') (empty_slots h tag') hfields hd hfinish⟩

theorem keeps_array {old new : List Json} (hmarks : tag.Marks (.array old))
    (hedit : tag.edit inner (.array old) (.array new))
    (hread : shape m (.array old) = .ok e) : shape m (.array new) = .ok e := by
  obtain - | ⟨hname⟩ := hmarks
  obtain ⟨tag', htag, hwell, hitems⟩ := shape_array_iff.mp hread
  obtain rfl := hname.shape_eq htag
  obtain ⟨rest, rfl, hrest⟩ := Edit.record_array_cons (by cases tag' <;> decide) hedit
  refine shape_array_iff.mpr ⟨tag', htag, ?_, ?_⟩
  · exact Edit.record_keepsForm (Tag.edits_keepsForm hform tag') _ _ hrest hwell
  · rw [← edits_slots h tag'] at hrest
    rw [← keys_slots h tag'] at hitems ⊢
    exact (reads_slots h tag').keeps_items (takesNull_slots h tag') (empty_slots h tag')
      (fun _ hkey => hkey) hrest hitems

end Edits

theorem keeps_editUpTo (m : Manner) (n : Nat) : Keeps (shape m) (editUpTo n) := by
  induction n generalizing m with
  | zero => exact Shape.keeps_none _
  | succ n ih =>
    rintro v w ⟨tag, hmarks, hedit⟩ e hread
    -- Whatever is inside an expression is read in the same manner.
    have h := ih .buffered
    rcases Edit.record_cases hedit with ⟨old, new, rfl, rfl⟩ | ⟨old, new, rfl, rfl⟩
    · exact keeps_object h (editUpTo_keepsForm n) hmarks hedit hread
    · exact keeps_array h (editUpTo_keepsForm n) hmarks hedit hread

theorem keeps (m : Manner) : Keeps (shape m) edit := fun v w ⟨n, h⟩ => keeps_editUpTo m n v w h

end PegCheck.Expr
