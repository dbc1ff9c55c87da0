import PegCheck.Json.Shape
import PegCheck.Proofs.Json.Edits
import Mathlib.Data.List.Nodup
import Mathlib.Data.List.Pairwise

/-!
# Records that are read field by field

The fields of a record are read one after the other into a draft. Each known field has a slot of its
own in the draft, which is filled at most once, and how its value is read depends on nothing but the
value. So what is read does not depend on the order of the fields, nor on fields without a slot, and
an edit of the record that the slots allow is not seen.

* `Slot`: the place of a field in a draft.
* `Step.ReadsInto`: reading a field fills its slot.
* `Step.ReadsInto.all_perm`: the order of the fields leaves no trace.
* `Step.ReadsInto.all_filter`: neither do fields without a slot.
* **`Step.ReadsInto.keeps_object`**, **`Step.ReadsInto.keeps_items`**: edits of an object, and of
  the list of a record's values, change nothing in what is read.
* **`Record.HasSlots.keeps`**: the two together, for a record.
-/

namespace PegCheck.Shape

open Json (Edit)

/-! ## Readings that succeed -/

section Results

variable {ε α β : Type}

theorem bind_eq_ok {x : Except ε α} {f : α → Except ε β} {b : β} :
    x >>= f = .ok b ↔ ∃ a, x = .ok a ∧ f a = .ok b := by
  cases x with
  | error e => exact ⟨nofun, nofun⟩
  | ok a => exact ⟨fun h => ⟨a, rfl, h⟩, fun ⟨_, ha, h⟩ => Except.ok.inj ha ▸ h⟩

theorem map_eq_ok {x : Except ε α} {f : α → β} {b : β} :
    x.map f = .ok b ↔ ∃ a, x = .ok a ∧ f a = b := by
  cases x with
  | error e => exact ⟨nofun, nofun⟩
  | ok a => simp [Except.map]

/-- An item may be exchanged for one that gives the same. -/
theorem mapM_exchange {f : α → Except ε β} {before after : List α} {a a' : α}
    (h : ∀ b, f a = .ok b → f a' = .ok b) {bs : List β}
    (hmap : (before ++ a :: after).mapM f = .ok bs) :
    (before ++ a' :: after).mapM f = .ok bs := by
  induction before generalizing bs with
  | nil =>
    rw [List.nil_append, List.mapM_cons, bind_eq_ok] at hmap ⊢
    obtain ⟨b, hb, hrest⟩ := hmap
    exact ⟨b, h b hb, hrest⟩
  | cons c before ih =>
    rw [List.cons_append, List.mapM_cons, bind_eq_ok] at hmap ⊢
    obtain ⟨b, hb, hrest⟩ := hmap
    obtain ⟨cs, hcs, hrest⟩ := bind_eq_ok.mp hrest
    exact ⟨b, hb, bind_eq_ok.mpr ⟨cs, ih hcs, hrest⟩⟩

end Results

variable {α δ : Type}

/-- The edit is not seen: what is read before it is read after it. -/
def Keeps (read : Json → Except Problem α) (edit : Edit) : Prop :=
  ∀ v w, edit v w → ∀ x, read v = .ok x → read w = .ok x

theorem keeps_none (read : Json → Except Problem α) : Keeps read Edit.none :=
  fun _ _ h => h.elim

theorem keeps_list {shape : Shape α} {m : Manner} {item : Edit} (h : Keeps (shape m) item) :
    Keeps (list shape m) (.list item) := by
  rintro _ _ ⟨hitem⟩ xs hread
  exact mapM_exchange (h _ _ hitem) hread

theorem keeps_nullable {shape : Shape α} {m : Manner} {edit : Edit} (h : Keeps (shape m) edit)
    (hnull : ∀ v w, edit v w → v ≠ .null ∧ w ≠ .null) : Keeps (nullable shape m) edit := by
  intro v w hedit x hread
  obtain ⟨hv, hw⟩ := hnull v w hedit
  rw [nullable, map_eq_ok] at hread
  · obtain ⟨y, hy, rfl⟩ := hread
    rw [nullable, h v w hedit y hy]
    · rfl
    · exact hw
  · exact hv

/-! ## Slots -/

/-- A field of a record: its key, where its value stands in a draft, how the value is read, and
which edits of the value are not seen. -/
structure Slot (δ : Type) where
  key : String
  Value : Type
  get : δ → Option Value
  set : δ → Option Value → δ
  read : Json → Except Problem Value
  edit : Edit
  get_set : ∀ d x, get (set d x) = x
  keeps : Keeps read edit

namespace Slot

/-- The slot of a field whose value has edits that are not seen. -/
def edited {read : Json → Except Problem α} {edit : Edit} (key : String) (get : δ → Option α)
    (set : δ → Option α → δ) (keeps : Keeps read edit)
    (get_set : ∀ d x, get (set d x) = x := by intros; rfl) : Slot δ where
  key := key
  Value := α
  get := get
  set := set
  read := read
  edit := edit
  get_set := get_set
  keeps := keeps

/-- The slot of a field whose value is not edited. -/
def plain (key : String) (get : δ → Option α) (set : δ → Option α → δ)
    (read : Json → Except Problem α) (get_set : ∀ d x, get (set d x) = x := by intros; rfl) :
    Slot δ := edited key get set (keeps_none read) get_set

/-- Fills the slot, unless it is filled already. -/
def fill (s : Slot δ) (d : δ) (v : Json) : Except Problem δ := do
  return s.set d (← once s.key (s.get d) (s.read v))

theorem fill_eq_ok {s : Slot δ} {d d' : δ} {v : Json} :
    s.fill d v = .ok d' ↔ s.get d = none ∧ ∃ x, s.read v = .ok x ∧ s.set d (some x) = d' := by
  rw [fill, bind_eq_ok]
  cases s.get d with
  | none => simp [once, map_eq_ok, pure, Except.pure]
  | some x => exact ⟨nofun, nofun⟩

/-- Two slots are different places. -/
structure Apart (s t : Slot δ) : Prop where
  get_set_left : ∀ d x, s.get (t.set d x) = s.get d
  get_set_right : ∀ d x, t.get (s.set d x) = t.get d
  set_set : ∀ d x y, s.set (t.set d y) x = t.set (s.set d x) y

theorem Apart.symm {s t : Slot δ} (h : s.Apart t) : t.Apart s :=
  ⟨h.get_set_right, h.get_set_left, fun d x y => (h.set_set d y x).symm⟩

instance : Std.Symm (Apart (δ := δ)) := ⟨fun _ _ => Apart.symm⟩

/-- Null in an empty slot counts as nothing. -/
def TakesNull (s : Slot δ) (finish : δ → Except Problem α) : Prop :=
  ∃ x, s.read .null = .ok x ∧ ∀ d, s.get d = none → finish (s.set d (some x)) = finish d

end Slot

/-- The fields for which there are slots, with their edits. -/
def edits (slots : List (Slot δ)) : List (String × Edit) := slots.map fun s => (s.key, s.edit)

/-- Reads a field into a draft. -/
abbrev Step (δ : Type) := δ → String → Json → Except Problem δ

namespace Step

/-- Reads fields into a draft, one after the other. -/
def all (step : Step δ) (d : δ) (fields : List (String × Json)) : Except Problem δ :=
  fields.foldlM (fun d f => step d f.1 f.2) d

theorem all_cons_eq {step : Step δ} {d : δ} {f : String × Json} {fields : List (String × Json)} :
    step.all d (f :: fields) = step d f.1 f.2 >>= fun e => step.all e fields := List.foldlM_cons

theorem all_cons {step : Step δ} {d d' : δ} {f : String × Json} {fields : List (String × Json)} :
    step.all d (f :: fields) = .ok d' ↔
      ∃ e, step d f.1 f.2 = .ok e ∧ step.all e fields = .ok d' := by
  rw [all_cons_eq, bind_eq_ok]

theorem all_append {step : Step δ} {d d' : δ} {before after : List (String × Json)} :
    step.all d (before ++ after) = .ok d' ↔
      ∃ e, step.all d before = .ok e ∧ step.all e after = .ok d' := by
  rw [all, List.foldlM_append]
  exact bind_eq_ok

/-- A value may be exchanged for one that is always read the same way. -/
theorem all_exchange {step : Step δ} {d d' : δ} {before after : List (String × Json)} {key : String}
    {v w : Json} (h : ∀ d d', step d key v = .ok d' → step d key w = .ok d')
    (hread : step.all d (before ++ (key, v) :: after) = .ok d') :
    step.all d (before ++ (key, w) :: after) = .ok d' := by
  obtain ⟨e, hbefore, hrest⟩ := all_append.mp hread
  obtain ⟨e', hv, hafter⟩ := all_cons.mp hrest
  exact all_append.mpr ⟨e, hbefore, all_cons.mpr ⟨e', h e e' hv, hafter⟩⟩

/-- Reading a field fills its slot; a field without a slot is passed over. -/
structure ReadsInto (step : Step δ) (slots : List (Slot δ)) : Prop where
  nodup : (slots.map (·.key)).Nodup
  apart : slots.Pairwise Slot.Apart
  step_eq : ∀ s ∈ slots, ∀ d v, step d s.key v = s.fill d v
  /-- Whether a field can be passed over depends on its value alone … -/
  pass : ∀ key ∉ slots.map (·.key), ∀ d d' v, step d key v = .ok d' →
    d' = d ∧ ∀ e, step e key v = .ok e
  /-- … and every well-formed value can. -/
  pass_of_isWellFormed : ∀ key ∉ slots.map (·.key), ∀ d v, v.isWellFormed = true →
    step d key v = .ok d

/-- Fields without a slot are passed over if their values are well-formed. -/
theorem readsInto_of_ignore {step : Step δ} {slots : List (Slot δ)}
    (hnodup : (slots.map (·.key)).Nodup) (hapart : slots.Pairwise Slot.Apart)
    (hstep : ∀ s ∈ slots, ∀ d v, step d s.key v = s.fill d v)
    (hignore : ∀ key ∉ slots.map (·.key), ∀ d v, step d key v = ignore v d) :
    step.ReadsInto slots where
  nodup := hnodup
  apart := hapart
  step_eq := hstep
  pass key hkey d d' v hread := by
    rw [hignore key hkey, ignore] at hread
    split at hread
    · rename_i hv
      exact ⟨(Except.ok.inj hread).symm, fun e => by rw [hignore key hkey, ignore, if_pos hv]⟩
    · nomatch hread
  pass_of_isWellFormed key hkey d v hv := by rw [hignore key hkey, ignore, if_pos hv]

theorem perm_last (before after : List (String × Json)) (f : String × Json) :
    (before ++ f :: after).Perm ((before ++ after) ++ [f]) :=
  List.perm_middle.trans (List.perm_append_singleton _ _).symm

theorem known_edits {slots : List (Slot δ)} {key : String} :
    Edit.Known (edits slots) key = true ↔ key ∈ slots.map (·.key) := by
  rw [Edit.known_iff]
  simp [edits, eq_comm]

namespace ReadsInto

variable {step : Step δ} {slots : List (Slot δ)} (h : step.ReadsInto slots)

include h

theorem apart_of_ne {s t : Slot δ} (hs : s ∈ slots) (ht : t ∈ slots) (hkey : s.key ≠ t.key) :
    s.Apart t := h.apart.forall hs ht fun heq => hkey (congrArg Slot.key heq)

theorem slot_eq {s t : Slot δ} (hs : s ∈ slots) (ht : t ∈ slots) (hkey : s.key = t.key) : s = t :=
  List.inj_on_of_nodup_map h.nodup hs ht hkey

/-! ### The order of the fields -/

/-- Two fields that are read one after the other may be read the other way round. -/
theorem swap {d d₁ d₂ : δ} {f g : String × Json} (hf : step d f.1 f.2 = .ok d₁)
    (hg : step d₁ g.1 g.2 = .ok d₂) :
    ∃ e, step d g.1 g.2 = .ok e ∧ step e f.1 f.2 = .ok d₂ := by
  by_cases hfslot : f.1 ∈ slots.map (·.key)
  · by_cases hgslot : g.1 ∈ slots.map (·.key)
    · obtain ⟨s, hs, hskey⟩ := List.mem_map.mp hfslot
      obtain ⟨t, ht, htkey⟩ := List.mem_map.mp hgslot
      rw [← hskey, h.step_eq s hs, Slot.fill_eq_ok] at hf
      rw [← htkey, h.step_eq t ht, Slot.fill_eq_ok] at hg
      obtain ⟨hempty, x, hx, rfl⟩ := hf
      obtain ⟨hempty', y, hy, rfl⟩ := hg
      have hne : s.key ≠ t.key := by
        intro hkey
        -- The slot is filled by the first field, and cannot be filled again.
        obtain rfl := h.slot_eq hs ht hkey
        rw [s.get_set] at hempty'
        nomatch hempty'
      have hapart := h.apart_of_ne hs ht hne
      rw [hapart.get_set_right] at hempty'
      refine ⟨t.set d (some y), ?_, ?_⟩
      · rw [← htkey, h.step_eq t ht, Slot.fill_eq_ok]
        exact ⟨hempty', y, hy, rfl⟩
      · rw [← hskey, h.step_eq s hs, Slot.fill_eq_ok, hapart.get_set_left]
        exact ⟨hempty, x, hx, hapart.set_set d x y⟩
    · obtain ⟨rfl, hpass⟩ := h.pass _ hgslot _ _ _ hg
      exact ⟨d, hpass d, hf⟩
  · obtain ⟨rfl, hpass⟩ := h.pass _ hfslot _ _ _ hf
    exact ⟨d₂, hg, hpass d₂⟩

/-- **The order of the fields** leaves no trace. -/
theorem all_perm {d d' : δ} {old new : List (String × Json)} (hperm : old.Perm new)
    (hread : step.all d old = .ok d') : step.all d new = .ok d' := by
  induction hperm generalizing d d' with
  | nil => exact hread
  | cons f _ ih =>
    obtain ⟨e, hf, hrest⟩ := all_cons.mp hread
    exact all_cons.mpr ⟨e, hf, ih hrest⟩
  | swap f g l =>
    obtain ⟨d₁, hg, hrest⟩ := all_cons.mp hread
    obtain ⟨d₂, hf, hrest⟩ := all_cons.mp hrest
    obtain ⟨e, hf, hg⟩ := h.swap hg hf
    exact all_cons.mpr ⟨e, hf, all_cons.mpr ⟨d₂, hg, hrest⟩⟩
  | trans _ _ ih₁ ih₂ => exact ih₂ (ih₁ hread)

/-! ### Fields without a slot -/

/-- Fields without a slot may be left out … -/
theorem all_filter {d d' : δ} {fields : List (String × Json)}
    (hread : step.all d fields = .ok d') :
    step.all d (fields.filter (Edit.Known (edits slots) ·.1)) = .ok d' := by
  induction fields generalizing d with
  | nil => exact hread
  | cons f fields ih =>
    obtain ⟨e, hf, hrest⟩ := all_cons.mp hread
    by_cases hkey : Edit.Known (edits slots) f.1 = true
    · rw [List.filter_cons, if_pos hkey]
      exact all_cons.mpr ⟨e, hf, ih hrest⟩
    · obtain ⟨rfl, -⟩ := h.pass _ (mt known_edits.mpr hkey) _ _ _ hf
      rw [List.filter_cons, if_neg hkey]
      exact ih hrest

/-- … and put in, if they are well-formed. -/
theorem all_of_filter {d d' : δ} {fields : List (String × Json)}
    (hform : ∀ f ∈ fields, Edit.Known (edits slots) f.1 = false → f.2.isWellFormed = true)
    (hread : step.all d (fields.filter (Edit.Known (edits slots) ·.1)) = .ok d') :
    step.all d fields = .ok d' := by
  induction fields generalizing d with
  | nil => exact hread
  | cons f fields ih =>
    obtain ⟨hformf, hform⟩ := List.forall_mem_cons.mp hform
    by_cases hkey : Edit.Known (edits slots) f.1 = true
    · rw [List.filter_cons, if_pos hkey] at hread
      obtain ⟨e, hf, hrest⟩ := all_cons.mp hread
      exact all_cons.mpr ⟨e, hf, ih hform hrest⟩
    · rw [List.filter_cons, if_neg hkey] at hread
      have hpass := h.pass_of_isWellFormed _ (mt known_edits.mpr hkey) d _
        (hformf (Bool.eq_false_iff.mpr hkey))
      exact all_cons.mpr ⟨d, hpass, ih hform hread⟩

/-! ### What is in a slot -/

/-- A slot stays as it is while fields of other names are read. -/
theorem get_all_of_not_mem {s : Slot δ} (hs : s ∈ slots) {d d' : δ}
    {fields : List (String × Json)} (habsent : ∀ f ∈ fields, f.1 ≠ s.key)
    (hread : step.all d fields = .ok d') : s.get d' = s.get d := by
  induction fields generalizing d with
  | nil => rw [Except.ok.inj hread]
  | cons f fields ih =>
    obtain ⟨hne, habsent⟩ := List.forall_mem_cons.mp habsent
    obtain ⟨e, hf, hrest⟩ := all_cons.mp hread
    rw [ih habsent hrest]
    by_cases hslot : f.1 ∈ slots.map (·.key)
    · obtain ⟨t, ht, htkey⟩ := List.mem_map.mp hslot
      rw [← htkey, h.step_eq t ht, Slot.fill_eq_ok] at hf
      obtain ⟨-, x, -, rfl⟩ := hf
      exact (h.apart_of_ne hs ht fun hkey => hne (htkey ▸ hkey.symm)).get_set_left d (some x)
    · rw [(h.pass _ hslot _ _ _ hf).1]

/-- A field that is read is in its slot in the end. -/
theorem get_all_of_mem {s : Slot δ} (hs : s ∈ slots) {d d' : δ} {fields : List (String × Json)}
    {v : Json} (hmem : (s.key, v) ∈ fields) (hread : step.all d fields = .ok d') :
    ∃ x, s.read v = .ok x ∧ s.get d' = some x := by
  obtain ⟨before, after, rfl⟩ := List.append_of_mem hmem
  -- The field may as well come last.
  obtain ⟨e, -, hlast⟩ := all_append.mp (h.all_perm (perm_last before after _) hread)
  obtain ⟨e', hfill, hnil⟩ := all_cons.mp hlast
  rw [h.step_eq s hs, Slot.fill_eq_ok] at hfill
  obtain ⟨-, x, hx, rfl⟩ := hfill
  obtain rfl := Except.ok.inj hnil
  exact ⟨x, hx, s.get_set e (some x)⟩

/-! ### Edits -/

section Edits

variable {α : Type} {finish : δ → Except Problem α} {optional : List String} {draft : δ}
  (hoptional : ∀ key ∈ optional, ∃ s ∈ slots, s.key = key ∧ s.TakesNull finish)
  (hempty : ∀ s ∈ slots, s.get draft = none)

/-- An edit of the value of a field is not seen when the field is read. -/
theorem step_edit {key : String} {edit : Edit} {v w : Json} (hfield : (key, edit) ∈ edits slots)
    (hedit : edit v w) (d d' : δ) (hread : step d key v = .ok d') : step d key w = .ok d' := by
  obtain ⟨s, hs, hkey⟩ := List.mem_map.mp hfield
  obtain ⟨rfl, rfl⟩ := Prod.mk.inj hkey
  rw [h.step_eq s hs, Slot.fill_eq_ok] at hread ⊢
  obtain ⟨hempty, x, hx, hset⟩ := hread
  exact ⟨hempty, x, s.keeps v w hedit x hx, hset⟩

include hoptional

/-- A null that is read last may be left out … -/
theorem finish_eraseNull {fields : List (String × Json)} {key : String} (hkey : key ∈ optional)
    {d : δ} {x : α} (hread : step.all draft (fields ++ [(key, .null)]) = .ok d)
    (hfinish : finish d = .ok x) : ∃ e, step.all draft fields = .ok e ∧ finish e = .ok x := by
  obtain ⟨s, hs, rfl, y, hy, hnull⟩ := hoptional key hkey
  obtain ⟨e, hfields, hlast⟩ := all_append.mp hread
  obtain ⟨e', hfill, hnil⟩ := all_cons.mp hlast
  rw [h.step_eq s hs, Slot.fill_eq_ok] at hfill
  obtain ⟨hget, z, hz, rfl⟩ := hfill
  obtain rfl := Except.ok.inj hnil
  obtain rfl := Except.ok.inj (hy.symm.trans hz)
  exact ⟨e, hfields, (hnull e hget).symm.trans hfinish⟩

include hempty

/-- … and put in, if the field is not there yet. -/
theorem finish_writeNull {fields : List (String × Json)} {key : String} (hkey : key ∈ optional)
    (habsent : ∀ f ∈ fields, f.1 ≠ key) {d : δ} {x : α} (hread : step.all draft fields = .ok d)
    (hfinish : finish d = .ok x) :
    ∃ e, step.all draft (fields ++ [(key, .null)]) = .ok e ∧ finish e = .ok x := by
  obtain ⟨s, hs, rfl, y, hy, hnull⟩ := hoptional key hkey
  have hget : s.get d = none := (h.get_all_of_not_mem hs habsent hread).trans (hempty s hs)
  have hfill : step d s.key .null = .ok (s.set d (some y)) := by
    rw [h.step_eq s hs, Slot.fill_eq_ok]
    exact ⟨hget, y, hy, rfl⟩
  exact ⟨s.set d (some y), all_append.mpr ⟨d, hread, all_cons.mpr ⟨_, hfill, rfl⟩⟩,
    (hnull d hget).trans hfinish⟩

/-- **Edits of an object** are not seen. -/
theorem keeps_object {old new : List (String × Json)}
    (hedit : Edit.record (edits slots) optional (.object old) (.object new)) {d : δ} {x : α}
    (hread : step.all draft old = .ok d) (hfinish : finish d = .ok x) :
    ∃ e, step.all draft new = .ok e ∧ finish e = .ok x := by
  cases hedit with
  | permute hperm => exact ⟨d, h.all_perm hperm hread, hfinish⟩
  | others hknown hform => exact ⟨d, h.all_of_filter hform (hknown ▸ h.all_filter hread), hfinish⟩
  | @writeNull before after key hkey habsent =>
    obtain ⟨e, he, hx⟩ := h.finish_writeNull hoptional hempty hkey habsent hread hfinish
    exact ⟨e, h.all_perm (perm_last before after _).symm he, hx⟩
  | @eraseNull before after key hkey =>
    exact h.finish_eraseNull hoptional hkey (h.all_perm (perm_last before after _) hread) hfinish
  | field hfield hvalue => exact ⟨d, all_exchange (h.step_edit hfield hvalue) hread, hfinish⟩

end Edits

end ReadsInto

/-! ## The list of a record's values -/

/-- The values are those of the first fields in order, and read as such they give `x`; of the fields
whose values are missing, all may be missing. -/
def ReadsItems (step : Step δ) (keys mayMiss : List String) (draft : δ)
    (finish : δ → Except Problem α) (items : List Json) (x : α) : Prop :=
  items.length ≤ keys.length ∧ (∀ key ∈ keys.drop items.length, key ∈ mayMiss) ∧
    ∃ d, step.all draft (keys.zip items) = .ok d ∧ finish d = .ok x

theorem length_take_of_getElem? {keys : List String} {n : Nat} {key : String}
    (hkey : keys[n]? = some key) : (keys.take n).length = n := by
  obtain ⟨hlt, -⟩ := List.getElem?_eq_some_iff.mp hkey
  rw [List.length_take]
  omega

theorem zip_middle {keys : List String} {before after : List Json} {key : String} {v : Json}
    (hkey : keys[before.length]? = some key) :
    keys.zip (before ++ v :: after) =
      (keys.take before.length).zip before ++
        (key, v) :: (keys.drop (before.length + 1)).zip after := by
  obtain ⟨hlt, hget⟩ := List.getElem?_eq_some_iff.mp hkey
  conv_lhs => rw [← List.take_append_drop before.length keys, List.drop_eq_getElem_cons hlt, hget]
  rw [List.zip_append (length_take_of_getElem? hkey), List.zip_cons_cons]

theorem zip_concat {keys : List String} {items : List Json} {key : String} {v : Json}
    (hkey : keys[items.length]? = some key) :
    keys.zip (items ++ [v]) = keys.zip items ++ [(key, v)] := by
  have hzip : keys.zip items = (keys.take items.length).zip items :=
    calc keys.zip items
        = (keys.take items.length ++ keys.drop items.length).zip (items ++ []) := by
          rw [List.take_append_drop, List.append_nil]
      _ = (keys.take items.length).zip items ++ (keys.drop items.length).zip [] :=
          List.zip_append (length_take_of_getElem? hkey)
      _ = (keys.take items.length).zip items := by rw [List.zip_nil_right, List.append_nil]
  rw [zip_middle hkey, hzip, List.zip_nil_right]

/-- The field after the first ones is not among them. -/
theorem ne_of_mem_zip {keys : List String} (hnodup : keys.Nodup) {items : List Json} {key : String}
    (hkey : keys[items.length]? = some key) : ∀ f ∈ keys.zip items, f.1 ≠ key := by
  rintro ⟨name, v⟩ hmem rfl
  obtain ⟨i, hi⟩ := List.mem_iff_getElem?.mp hmem
  obtain ⟨hname, hv⟩ := List.getElem?_zip_eq_some.mp hi
  obtain ⟨hlt, -⟩ := List.getElem?_eq_some_iff.mp hv
  obtain ⟨hlt', hget'⟩ := List.getElem?_eq_some_iff.mp hkey
  obtain ⟨hlt'', hget''⟩ := List.getElem?_eq_some_iff.mp hname
  have hindex := (List.Nodup.getElem_inj_iff hnodup).mp (hget''.trans hget'.symm)
  omega

variable {step : Step δ} {slots : List (Slot δ)} {mayMiss optional : List String} {draft : δ}
  {finish : δ → Except Problem α}

/-- **Edits of the list of a record's values** are not seen. -/
theorem ReadsInto.keeps_items (h : step.ReadsInto slots)
    (hoptional : ∀ key ∈ optional, ∃ s ∈ slots, s.key = key ∧ s.TakesNull finish)
    (hempty : ∀ s ∈ slots, s.get draft = none) (hmayMiss : ∀ key ∈ optional, key ∈ mayMiss)
    {old new : List Json} (hedit : Edit.record (edits slots) optional (.array old) (.array new))
    {x : α} (hread : step.ReadsItems (slots.map (·.key)) mayMiss draft finish old x) :
    step.ReadsItems (slots.map (·.key)) mayMiss draft finish new x := by
  have hkeys {n : Nat} {key : String} {edit : Edit}
      (hfield : (edits slots)[n]? = some (key, edit)) : (slots.map (·.key))[n]? = some key := by
    simp only [edits, List.getElem?_map, Option.map_eq_some_iff, Prod.mk.injEq] at hfield ⊢
    obtain ⟨s, hs, hkey, -⟩ := hfield
    exact ⟨s, hs, hkey⟩
  obtain ⟨hlength, hmissing, d, hall, hfinish⟩ := hread
  cases hedit with
  | @item before after key edit v w hfield hvalue =>
    refine ⟨by simpa using hlength, by simpa using hmissing, d, ?_, hfinish⟩
    rw [zip_middle (hkeys hfield)] at hall ⊢
    exact all_exchange (h.step_edit (List.mem_of_getElem? hfield) hvalue) hall
  | appendNull hfield hkey =>
    obtain ⟨hlt, -⟩ := List.getElem?_eq_some_iff.mp (hkeys hfield)
    obtain ⟨e, he, hx⟩ := h.finish_writeNull hoptional hempty hkey
      (ne_of_mem_zip h.nodup (hkeys hfield)) hall hfinish
    refine ⟨by simpa using Nat.succ_le_of_lt hlt, fun key hmem => ?_, e, ?_, hx⟩
    · rw [List.length_append, List.length_singleton, ← List.drop_drop] at hmem
      exact hmissing key (List.mem_of_mem_drop hmem)
    · rw [zip_concat (hkeys hfield)]
      exact he
  | @dropNull _ key _ hfield hkey =>
    obtain ⟨hlt, hget⟩ := List.getElem?_eq_some_iff.mp (hkeys hfield)
    rw [zip_concat (hkeys hfield)] at hall
    obtain ⟨e, he, hx⟩ := h.finish_eraseNull hoptional hkey hall hfinish
    refine ⟨Nat.le_of_lt hlt, fun name hmem => ?_, e, he, hx⟩
    rw [List.drop_eq_getElem_cons hlt, hget, List.mem_cons] at hmem
    rcases hmem with rfl | hmem
    · exact hmayMiss name hkey
    · exact hmissing name (by simpa using hmem)

end Step

/-! ## Records -/

/-- The record reads its fields into slots of its draft, which is empty at first, and takes null for
the optional fields. -/
structure Record.HasSlots (r : Record δ α) (draft : δ) (m : Manner) (slots : List (Slot δ))
    (optional : List String) : Prop where
  reads : Step.ReadsInto (r.field m) slots
  fields_eq : r.fields = slots.map (·.key)
  empty : ∀ s ∈ slots, s.get draft = none
  optional_takesNull : ∀ key ∈ optional, ∃ s ∈ slots, s.key = key ∧ s.TakesNull r.finish
  optional_mem : ∀ key ∈ optional, key ∈ r.optional

/-- A record has slots if each of its fields fills one and all other fields are passed over. -/
theorem Record.hasSlots_of_ignore {r : Record δ α} {draft : δ} {m : Manner} {slots : List (Slot δ)}
    {optional : List String} (hfields : r.fields = slots.map (·.key)) (hnodup : r.fields.Nodup)
    (hapart : slots.Pairwise Slot.Apart)
    (hfill : ∀ s ∈ slots, s.get draft = none ∧ ∀ d v, r.field m d s.key v = s.fill d v)
    (hignore : ∀ key ∉ r.fields, ∀ d v, r.field m d key v = ignore v d)
    (hoptional : ∀ key ∈ optional,
      key ∈ r.optional ∧ ∃ s ∈ slots, s.key = key ∧ s.TakesNull r.finish) :
    r.HasSlots draft m slots optional where
  reads := Step.readsInto_of_ignore (hfields ▸ hnodup) hapart (fun s hs => (hfill s hs).2)
    (hfields ▸ hignore)
  fields_eq := hfields
  empty s hs := (hfill s hs).1
  optional_takesNull key hkey := (hoptional key hkey).2
  optional_mem key hkey := (hoptional key hkey).1

theorem Record.shape_object {r : Record δ α} {draft : δ} {m : Manner}
    {fields : List (String × Json)} {x : α} :
    r.shape draft m (.object fields) = .ok x ↔
      ∃ d, Step.all (r.field m) draft fields = .ok d ∧ r.finish d = .ok x := bind_eq_ok

theorem Record.shape_array {r : Record δ α} {draft : δ} {m : Manner} {items : List Json} {x : α} :
    r.shape draft m (.array items) = .ok x ↔
      Step.ReadsItems (r.field m) r.fields r.optional draft r.finish items x := by
  have hmissing : (r.fields.drop items.length).findIdx? (fun f => !r.optional.contains f) = none ↔
      ∀ key ∈ r.fields.drop items.length, key ∈ r.optional := by
    simp [List.findIdx?_eq_none_iff]
  rw [shape, ofItems, bind_eq_ok]
  dsimp only
  constructor
  · rintro ⟨d, hd, hrest⟩
    cases hfind : (r.fields.drop items.length).findIdx? fun f => !r.optional.contains f with
    | some i =>
      rw [hfind] at hrest
      nomatch hrest
    | none =>
      rw [hfind] at hrest
      by_cases hlong : items.length > r.fields.length
      · simp only [if_pos hlong] at hrest
        cases m <;> nomatch hrest
      · simp only [if_neg hlong] at hrest
        exact ⟨Nat.le_of_not_lt hlong, hmissing.mp hfind, d, hd, hrest⟩
  · rintro ⟨hlength, hoptional, d, hd, hfinish⟩
    refine ⟨d, hd, ?_⟩
    rw [hmissing.mpr hoptional]
    simp only [if_neg (Nat.not_lt.mpr hlength)]
    exact hfinish

/-- **Edits of a record** are not seen. -/
theorem Record.HasSlots.keeps {r : Record δ α} {draft : δ} {m : Manner} {slots : List (Slot δ)}
    {optional : List String} (h : r.HasSlots draft m slots optional) :
    Keeps (r.shape draft m) (.record (edits slots) optional) := by
  intro v w hedit x hread
  rcases Edit.record_cases hedit with ⟨old, new, rfl, rfl⟩ | ⟨old, new, rfl, rfl⟩
  · obtain ⟨d, hd, hx⟩ := Record.shape_object.mp hread
    exact Record.shape_object.mpr (h.reads.keeps_object h.optional_takesNull h.empty hedit hd hx)
  · rw [Record.shape_array, h.fields_eq] at hread ⊢
    exact h.reads.keeps_items h.optional_takesNull h.empty h.optional_mem hedit hread

end PegCheck.Shape
