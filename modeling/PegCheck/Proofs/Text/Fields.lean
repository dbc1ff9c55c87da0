import PegCheck.Position
import Mathlib.Data.List.TakeWhile

/-!
# Fields of a text

A text in print is put together from fields, each of which ends at a character that the field itself
does not have. So a reader who knows that character finds the field again.

* `takeWhile_field`, `dropWhile_field`, `field_inj`: a field before a separator.
* `render_inj`: a position in print tells the position.
* `fields_inj`: fields with a space before each.
* `lines_inj`: lines with a newline between any two.
-/

namespace PegCheck

section Stops

variable {α : Type} {a b r s : List α}

/-- The part of a list before the first element at which `p` fails. -/
theorem takeWhile_append_stop {p : α → Bool} (ha : ∀ x ∈ a, p x = true)
    (hr : ∀ x ∈ r.head?, p x = false) : (a ++ r).takeWhile p = a := by
  rw [List.takeWhile_append_of_pos ha]
  cases r with
  | nil => exact List.append_nil a
  | cons x r => rw [List.takeWhile_cons_of_neg (by simp [hr x rfl]), List.append_nil]

/-- Where `p` fails for the first time, if it does. -/
theorem dropWhile_stop {p : α → Bool} : ∀ x ∈ (a.dropWhile p).head?, p x = false := by
  intro x hx
  have hhead := List.head?_dropWhile_not p a
  rwa [Option.mem_def.mp hx] at hhead

/-- The part of a list before the first separator. -/
theorem takeWhile_field [DecidableEq α] {x : α} (ha : x ∉ a) (hr : ∀ y ∈ r.head?, y = x) :
    (a ++ r).takeWhile (· != x) = a :=
  takeWhile_append_stop (fun _ hy => bne_iff_ne.mpr fun heq => ha (heq ▸ hy))
    fun y hy => bne_eq_false_iff_eq.mpr (hr y hy)

theorem not_mem_takeWhile_field [DecidableEq α] {x : α} : x ∉ a.takeWhile (· != x) := by
  intro hmem
  have hne : (x != x) = true := List.mem_takeWhile_imp (p := (· != x)) hmem
  exact bne_iff_ne.mp hne rfl

theorem dropWhile_field [DecidableEq α] {x : α} : ∀ y ∈ (a.dropWhile (· != x)).head?, y = x :=
  fun y hy => bne_eq_false_iff_eq.mp (dropWhile_stop y hy)

/-- **A field and what follows it** are told by the whole if the field has no separator. -/
theorem field_inj [DecidableEq α] {x : α} (ha : x ∉ a) (hb : x ∉ b) (hr : ∀ y ∈ r.head?, y = x)
    (hs : ∀ y ∈ s.head?, y = x) (h : a ++ r = b ++ s) : a = b ∧ r = s := by
  have hab : a = b := by rw [← takeWhile_field ha hr, h, takeWhile_field hb hs]
  subst hab
  exact ⟨rfl, List.append_cancel_left h⟩

end Stops

/-! ## Numbers and positions -/

theorem not_mem_toString {c : Char} (hc : c.isDigit = false) (n : Nat) :
    c ∉ (toString n).toList := by
  rw [Nat.toString_eq_repr, Nat.toList_repr]
  intro hmem
  rw [Nat.isDigit_of_mem_toDigits (by decide) (by decide) hmem] at hc
  nomatch hc

theorem toString_inj {m n : Nat} (h : (toString m).toList = (toString n).toList) : m = n := by
  rw [Nat.toString_eq_repr, Nat.toString_eq_repr, Nat.toList_repr, Nat.toList_repr] at h
  have hread : ∀ k : Nat, Nat.ofDigitChars 10 (Nat.toDigits 10 k) 0 = k := fun k =>
    Nat.ofDigitChars_toDigits (by decide) (by decide)
  rw [← hread m, h, hread]

theorem toList_render (p : Position) :
    p.render.toList = (toString p.line).toList ++ ':' :: (toString p.column).toList := by
  simp [Position.render]

theorem not_mem_render {c : Char} (hc : c.isDigit = false) (hcolon : c ≠ ':') (p : Position) :
    c ∉ p.render.toList := by
  rw [toList_render, List.mem_append, List.mem_cons]
  rintro (hline | rfl | hcolumn)
  · exact not_mem_toString hc _ hline
  · exact hcolon rfl
  · exact not_mem_toString hc _ hcolumn

theorem render_inj (p q : Position) (h : p.render = q.render) : p = q := by
  have hcolon : ∀ n : Nat, ':' ∉ (toString n).toList := not_mem_toString (by decide)
  have hchars := congrArg String.toList h
  rw [toList_render, toList_render] at hchars
  obtain ⟨hline, hcolumn⟩ := field_inj (hcolon _) (hcolon _) (by simp) (by simp) hchars
  rw [Position.eq_iff]
  exact ⟨toString_inj hline, toString_inj (List.tail_eq_of_cons_eq hcolumn)⟩

/-! ## Lists of fields -/

section Fields

variable {α : Type} {f : α → String}

theorem toList_join_fields (xs : List α) :
    (String.join (xs.map fun x => " " ++ f x)).toList = xs.flatMap fun x => ' ' :: (f x).toList := by
  simp [String.toList_join, List.flatMap_map]

theorem head?_join_fields (xs : List α) :
    ∀ c ∈ (String.join (xs.map fun x => " " ++ f x)).toList.head?, c = ' ' := by
  intro c hc
  rw [toList_join_fields] at hc
  cases xs with
  | nil => nomatch hc
  | cons x xs => exact (Option.some.inj hc).symm

/-- **Fields without spaces** are told by their list in print, with a space before each. -/
theorem fields_inj (hspace : ∀ x, ' ' ∉ (f x).toList) (hf : ∀ x y, f x = f y → x = y)
    {xs ys : List α}
    (h : String.join (xs.map fun x => " " ++ f x) = String.join (ys.map fun x => " " ++ f x)) :
    xs = ys := by
  induction xs generalizing ys with
  | nil =>
    cases ys with
    | nil => rfl
    | cons y ys => simp [← String.toList_inj, String.toList_join] at h
  | cons x xs ih =>
    cases ys with
    | nil => simp [← String.toList_inj, String.toList_join] at h
    | cons y ys =>
      rw [List.map_cons, List.map_cons, String.join_cons, String.join_cons, String.append_assoc,
        String.append_assoc, String.append_right_inj, ← String.toList_inj, String.toList_append,
        String.toList_append] at h
      obtain ⟨hfirst, hrest⟩ := field_inj (hspace x) (hspace y) (head?_join_fields xs)
        (head?_join_fields ys) h
      rw [hf x y (String.toList_inj.mp hfirst), ih (String.toList_inj.mp hrest)]

end Fields

/-! ## Lines -/

theorem not_mem_intercalate {α : Type} {x : α} {sep : List α} {ls : List (List α)} (hsep : x ∉ sep)
    (h : ∀ l ∈ ls, x ∉ l) : x ∉ sep.intercalate ls := by
  induction ls with
  | nil => exact List.not_mem_nil
  | cons l ls ih =>
    obtain ⟨hl, hls⟩ := List.forall_mem_cons.mp h
    cases ls with
    | nil => simpa using hl
    | cons l' ls => simpa [hl, hsep] using ih hls

/-- **Lines without newlines** are told by their text. -/
theorem lines_inj {ls ls' : List String} (hne : ls ≠ []) (hne' : ls' ≠ [])
    (h : ∀ l ∈ ls, '\n' ∉ l.toList) (h' : ∀ l ∈ ls', '\n' ∉ l.toList)
    (heq : "\n".intercalate ls = "\n".intercalate ls') : ls = ls' := by
  have hsplit : ∀ {ls : List String}, ls ≠ [] → (∀ l ∈ ls, '\n' ∉ l.toList) →
      ("\n".intercalate ls).toList.splitOn '\n' = ls.map String.toList := fun {ls} hne h => by
    rw [String.toList_intercalate]
    exact List.splitOn_intercalate '\n' (by simpa using h) (by simpa using hne)
  have hchars : ls.map String.toList = ls'.map String.toList := by
    rw [← hsplit hne h, heq, hsplit hne' h']
  exact (List.map_inj_right fun _ _ => String.toList_inj.mp).mp hchars

end PegCheck
