import PegCheck.Json.Basic
import Mathlib.Data.List.Basic

/-!
# Edits that leave the meaning of a value alone

A record may be written in many ways: its fields in any order, with fields that no one asks for,
with an absent optional field as null, or as the list of its fields' values. An edit goes from one
way to another, at one place of a value. What counts as a field that no one asks for, and which
fields are optional, depends on the record, so there is an edit for each kind of value, made from
those of its parts.

* `Json.Edit.record`: one edit of a record or of one of its fields.
* `Json.Edit.list`, `Json.Edit.values`: one edit inside a list, or inside an object that is a map.
* `Json.Edit.record_keepsForm`: an edit makes no malformed leaf.
* `Json.Edit.record_mono`: an edit of a record is one of a record with fewer known fields.
-/

namespace PegCheck.Json

/-! ## Well-formed lists -/

theorem isWellFormedList_iff {items : List Json} :
    isWellFormedList items = true ↔ ∀ v ∈ items, v.isWellFormed = true := by
  induction items with
  | nil => simp [isWellFormedList]
  | cons v items ih => simp [isWellFormedList, ih]

theorem isWellFormedFields_iff {fields : List (String × Json)} :
    isWellFormedFields fields = true ↔ ∀ f ∈ fields, f.2.isWellFormed = true := by
  induction fields with
  | nil => simp [isWellFormedFields]
  | cons f fields ih => simp [isWellFormedFields, ih]

/-- Edits at one place: which values come of which. -/
abbrev Edit := Json → Json → Prop

namespace Edit

/-- No edit at all. -/
def none : Edit := fun _ _ => False

/-- One edit of a list: an edit of one of its items. -/
inductive list (item : Edit) : Edit
  | item {before after : List Json} {v w : Json} (h : item v w) :
    list item (.array (before ++ v :: after)) (.array (before ++ w :: after))

/-- One edit of an object that is a map: an edit of the value of one of its keys. -/
inductive values (value : Edit) : Edit
  | value {before after : List (String × Json)} {key : String} {v w : Json} (h : value v w) :
    values value (.object (before ++ (key, v) :: after)) (.object (before ++ (key, w) :: after))

/-- Is there a field of the name? -/
def Known (fields : List (String × Edit)) (key : String) : Bool := (fields.map (·.1)).contains key

/-- One edit of a record with the given fields, each with the edits of its value, of which the
`optional` ones are absent when they are null. A record is an object, or the list of its fields'
values in order, of which optional ones at the end may be missing. -/
inductive record (fields : List (String × Edit)) (optional : List String) : Edit
  /-- The fields of an object are put in another order. -/
  | permute {old new : List (String × Json)} (h : old.Perm new) :
    record fields optional (.object old) (.object new)
  /-- Fields of other names come and go and change. -/
  | others {old new : List (String × Json)}
    (h : old.filter (Known fields ·.1) = new.filter (Known fields ·.1))
    (hform : ∀ f ∈ new, Known fields f.1 = false → f.2.isWellFormed = true) :
    record fields optional (.object old) (.object new)
  /-- An absent optional field is written as null. -/
  | writeNull {before after : List (String × Json)} {key : String} (hkey : key ∈ optional)
    (habsent : ∀ f ∈ before ++ after, f.1 ≠ key) :
    record fields optional (.object (before ++ after)) (.object (before ++ (key, .null) :: after))
  /-- An optional field that is null is taken out. -/
  | eraseNull {before after : List (String × Json)} {key : String} (hkey : key ∈ optional) :
    record fields optional (.object (before ++ (key, .null) :: after)) (.object (before ++ after))
  /-- The value of a field is edited. -/
  | field {before after : List (String × Json)} {key : String} {edit : Edit} {v w : Json}
    (hfield : (key, edit) ∈ fields) (h : edit v w) :
    record fields optional (.object (before ++ (key, v) :: after))
      (.object (before ++ (key, w) :: after))
  /-- The value of a field is edited in the list of the fields' values. -/
  | item {before after : List Json} {key : String} {edit : Edit} {v w : Json}
    (hfield : fields[before.length]? = some (key, edit)) (h : edit v w) :
    record fields optional (.array (before ++ v :: after)) (.array (before ++ w :: after))
  /-- The first missing value of the list is written as null. -/
  | appendNull {items : List Json} {key : String} {edit : Edit}
    (hfield : fields[items.length]? = some (key, edit)) (hkey : key ∈ optional) :
    record fields optional (.array items) (.array (items ++ [.null]))
  /-- The last value of the list is null and is taken out. -/
  | dropNull {items : List Json} {key : String} {edit : Edit}
    (hfield : fields[items.length]? = some (key, edit)) (hkey : key ∈ optional) :
    record fields optional (.array (items ++ [.null])) (.array items)

variable {fields : List (String × Edit)} {optional : List String}

theorem known_iff {key : String} : Known fields key = true ↔ ∃ edit, (key, edit) ∈ fields := by
  simp [Known]

/-- An object stays an object, and a list of values stays one. -/
theorem record_cases {v w : Json} (h : record fields optional v w) :
    (∃ old new, v = .object old ∧ w = .object new) ∨ ∃ old new, v = .array old ∧ w = .array new := by
  cases h with
  | permute | others | writeNull | eraseNull | field => exact .inl ⟨_, _, rfl, rfl⟩
  | item | appendNull | dropNull => exact .inr ⟨_, _, rfl, rfl⟩

/-- Records are not null. -/
theorem ne_null_of_record (v w : Json) (h : record fields optional v w) : v ≠ .null ∧ w ≠ .null := by
  rcases record_cases h with ⟨old, new, rfl, rfl⟩ | ⟨old, new, rfl, rfl⟩
  · exact ⟨nofun, nofun⟩
  · exact ⟨nofun, nofun⟩

/-! ## Edits and malformed leaves -/

/-- The edits make no malformed leaf. -/
def KeepsForm (edit : Edit) : Prop :=
  ∀ v w, edit v w → v.isWellFormed = true → w.isWellFormed = true

theorem none_keepsForm : none.KeepsForm := fun _ _ h => h.elim

theorem list_keepsForm {item : Edit} (h : item.KeepsForm) : (list item).KeepsForm := by
  rintro _ _ ⟨hitem⟩ hform
  rw [isWellFormed, isWellFormedList_iff, List.forall_mem_append, List.forall_mem_cons] at hform ⊢
  exact ⟨hform.1, h _ _ hitem hform.2.1, hform.2.2⟩

theorem record_keepsForm (h : ∀ f ∈ fields, f.2.KeepsForm) : (record fields optional).KeepsForm := by
  intro v w hedit hform
  cases hedit with
  | permute hperm =>
    rw [isWellFormed, isWellFormedFields_iff] at hform ⊢
    exact fun f hf => hform f (hperm.mem_iff.mpr hf)
  | @others old new hknown hothers =>
    rw [isWellFormed, isWellFormedFields_iff] at hform ⊢
    intro f hf
    by_cases hkey : Known fields f.1 = true
    · have hmem : f ∈ old.filter (Known fields ·.1) := hknown ▸ List.mem_filter.mpr ⟨hf, hkey⟩
      exact hform f (List.mem_filter.mp hmem).1
    · exact hothers f hf (Bool.eq_false_iff.mpr hkey)
  | writeNull =>
    rw [isWellFormed, isWellFormedFields_iff, List.forall_mem_append] at hform ⊢
    exact ⟨hform.1, List.forall_mem_cons.mpr ⟨rfl, hform.2⟩⟩
  | eraseNull =>
    rw [isWellFormed, isWellFormedFields_iff, List.forall_mem_append] at hform ⊢
    exact ⟨hform.1, (List.forall_mem_cons.mp hform.2).2⟩
  | field hfield hvalue =>
    rw [isWellFormed, isWellFormedFields_iff, List.forall_mem_append, List.forall_mem_cons]
      at hform ⊢
    exact ⟨hform.1, h _ hfield _ _ hvalue hform.2.1, hform.2.2⟩
  | item hfield hvalue =>
    rw [isWellFormed, isWellFormedList_iff, List.forall_mem_append, List.forall_mem_cons] at hform ⊢
    exact ⟨hform.1, h _ (List.mem_of_getElem? hfield) _ _ hvalue hform.2.1, hform.2.2⟩
  | appendNull =>
    rw [isWellFormed, isWellFormedList_iff] at hform ⊢
    exact List.forall_mem_append.mpr ⟨hform, List.forall_mem_singleton.mpr rfl⟩
  | dropNull =>
    rw [isWellFormed, isWellFormedList_iff] at hform ⊢
    exact (List.forall_mem_append.mp hform).1

/-! ## Fewer known fields -/

/-- An edit of a list of values leaves a first value alone that has no edits, and is one of the rest
of the list. -/
theorem record_array_cons {key : String} {first : Json} {old new : List Json}
    (hkey : key ∉ optional)
    (h : record ((key, none) :: fields) optional (.array (first :: old)) (.array new)) :
    ∃ rest, new = first :: rest ∧ record fields optional (.array old) (.array rest) := by
  generalize hitems : first :: old = items at h
  cases h with
  | @item before after name edit v w hfield hvalue =>
    cases before with
    | nil =>
      obtain ⟨-, rfl⟩ := Prod.mk.inj (Option.some.inj hfield)
      exact hvalue.elim
    | cons b before =>
      obtain ⟨rfl, rfl⟩ := List.cons.inj hitems
      exact ⟨_, rfl, .item hfield hvalue⟩
  | appendNull hfield hname =>
    subst hitems
    exact ⟨_, rfl, .appendNull hfield hname⟩
  | dropNull hfield hname =>
    cases new with
    | nil =>
      obtain ⟨rfl, -⟩ := Prod.mk.inj (Option.some.inj hfield)
      exact absurd hname hkey
    | cons b new =>
      obtain ⟨rfl, rfl⟩ := List.cons.inj hitems
      exact ⟨_, rfl, .dropNull hfield hname⟩

/-- A field that is not known makes no difference to the known ones. -/
theorem filter_known_middle {before after : List (String × Json)} {f : String × Json}
    (hkey : ¬ Known fields f.1 = true) :
    (before ++ f :: after).filter (Known fields ·.1) =
      (before ++ after).filter (Known fields ·.1) := by
  have hpassed : (f :: after).filter (Known fields ·.1) = after.filter (Known fields ·.1) :=
    List.filter_cons_of_neg hkey
  rw [List.filter_append, hpassed, List.filter_append]

/-- An edit of an object with some known fields is one of an object with fewer. The fields that are
no longer known may change in any way. -/
theorem record_mono {fewer : List (String × Edit)} {fewerOptional : List String}
    {old new : List (String × Json)} (h : record fields optional (.object old) (.object new))
    (hform : ∀ f ∈ new, f.2.isWellFormed = true)
    (hkeys : ∀ key, Known fewer key = true → Known fields key = true)
    (hfields : ∀ f ∈ fields, Known fewer f.1 = true → f ∈ fewer)
    (hoptional : ∀ key ∈ optional, Known fewer key = true → key ∈ fewerOptional) :
    record fewer fewerOptional (.object old) (.object new) := by
  have hothers {old new : List (String × Json)} (hform : ∀ f ∈ new, f.2.isWellFormed = true)
      (hsame : old.filter (Known fewer ·.1) = new.filter (Known fewer ·.1)) :
      record fewer fewerOptional (.object old) (.object new) :=
    .others hsame fun f hf _ => hform f hf
  cases h with
  | permute hperm => exact .permute hperm
  | @others _ _ hknown _ =>
    have hsub (l : List (String × Json)) : (l.filter (Known fields ·.1)).filter (Known fewer ·.1) =
        l.filter (Known fewer ·.1) := by
      rw [List.filter_filter]
      refine List.filter_congr fun f _ => ?_
      by_cases hkey : Known fewer f.1 = true
      · rw [hkey, hkeys _ hkey]
        rfl
      · rw [Bool.eq_false_iff.mpr hkey]
        rfl
    exact hothers hform (by rw [← hsub old, hknown, hsub])
  | @writeNull before after key hkey habsent =>
    by_cases hfewer : Known fewer key = true
    · exact .writeNull (hoptional key hkey hfewer) habsent
    · exact hothers hform (filter_known_middle hfewer).symm
  | @eraseNull before after key hkey =>
    by_cases hfewer : Known fewer key = true
    · exact .eraseNull (hoptional key hkey hfewer)
    · exact hothers hform (filter_known_middle hfewer)
  | @field before after key edit v w hfield hvalue =>
    by_cases hfewer : Known fewer key = true
    · exact .field (hfields _ hfield hfewer) hvalue
    · refine hothers hform ?_
      rw [filter_known_middle hfewer, filter_known_middle hfewer]

end Edit

end PegCheck.Json
