import PegCheck.Proofs.OrderedSet
import PegCheck.Proofs.Text.Fields
import PegCheck.SymbolTable.Dump

/-!
# Tables told apart by their print

A table in print is lines: a heading, a line for each rule, a heading, a line for each referenced
name, and the line of combinators. The lines of rules and names begin with spaces and the headings
do not, so the lines tell which of them are of rules and which of names; and within a line, fields
end at spaces. All this is read off the text as long as no field brings spaces or newlines of its
own.

* `Rule.outline`, `SameOutline`: what the print of a table tells.
* `IsPlain`, `HasPlainArgs`: no field of the table has a newline, and no name has a space.
* `Rule.outline_of_dump`, `ReferenceGroup.eq_of_dump`: what a line tells.
* `dumpLines_inj`: what the lines tell.
* **`sameOutline_of_dump`**: tables with the same print have the same outline.
* `not_sameOutline_of_args`: a recorded name with a newline can be the line of a rule.
-/

namespace PegCheck

namespace CodeBlock

/-- The names that are recorded as used by the code have no newlines, unless it is the identity. -/
def HasPlainArgs (b : CodeBlock) : Prop :=
  b.identity = false → ∀ a ∈ b.annotations, ∀ name ∈ a.usedArgs.toList, '\n' ∉ name.toList

instance (b : CodeBlock) : Decidable b.HasPlainArgs :=
  inferInstanceAs (Decidable (b.identity = false →
    ∀ a ∈ b.annotations, ∀ name ∈ a.usedArgs.toList, '\n' ∉ name.toList))

end CodeBlock

namespace Rule

/-- The name and position of a rule and whether it has no code, the identity or other code. -/
def outline (r : Rule) : String × Position × Option Bool :=
  (r.name, r.index, r.code.map (·.identity))

end Rule

namespace SymbolTable

/-- The names have no spaces, and neither they nor the trimmed code have newlines. -/
structure IsPlain (t : SymbolTable) : Prop where
  rules : ∀ r ∈ t.rules, ' ' ∉ r.name.toList ∧ '\n' ∉ r.name.toList
  references : ∀ g ∈ t.references, ' ' ∉ g.name.toList ∧ '\n' ∉ g.name.toList
  code : ∀ r ∈ t.rules, ∀ b ∈ r.code, '\n' ∉ Text.trim b.code.toList

/-- The names that are recorded as used by code have no newlines. -/
def HasPlainArgs (t : SymbolTable) : Prop := ∀ r ∈ t.rules, ∀ b ∈ r.code, b.HasPlainArgs

instance (t : SymbolTable) : Decidable t.HasPlainArgs :=
  inferInstanceAs (Decidable (∀ r ∈ t.rules, ∀ b ∈ r.code, b.HasPlainArgs))

/-- Tables with the same rules but for the text and annotations of code, and with the same
references and combinators. -/
structure SameOutline (t u : SymbolTable) : Prop where
  rules : t.rules.map Rule.outline = u.rules.map Rule.outline
  references : t.references = u.references
  combinators : t.combinators = u.combinators

end SymbolTable

/-! ## Lines of rules -/

namespace CodeBlock

/-- Code in print begins with a mark that tells whether it is the identity. -/
theorem exists_dump (b : CodeBlock) :
    ∃ rest, b.dump.toList = ' ' :: (if b.identity then '(' else '\x7b') :: rest := by
  unfold dump
  by_cases hb : b.identity = true
  · rw [if_pos hb, if_pos hb]
    exact ⟨"identity)".toList, rfl⟩
  · rw [if_neg hb, if_neg hb]
    exact ⟨_, by simp only [String.toList_append]; rfl⟩

theorem identity_of_dump {b c : CodeBlock} (h : b.dump = c.dump) : b.identity = c.identity := by
  obtain ⟨rest, hb⟩ := b.exists_dump
  obtain ⟨rest', hc⟩ := c.exists_dump
  rw [h, hc] at hb
  cases hi : b.identity <;> cases hj : c.identity <;> simp_all

theorem newline_not_mem_dump {b : CodeBlock} (hcode : '\n' ∉ Text.trim b.code.toList)
    (hargs : b.HasPlainArgs) : '\n' ∉ b.dump.toList := by
  unfold dump
  by_cases hb : b.identity = true
  · rw [if_pos hb]
    decide
  · rw [if_neg hb]
    rw [Bool.not_eq_true] at hb
    cases hann : b.annotations with
    | none => simp [hcode]
    | some a =>
      have hnames : '\n' ∉ [','].intercalate (a.usedArgs.toList.map String.toList) := by
        refine not_mem_intercalate (by decide) fun l hl => ?_
        obtain ⟨name, hname, rfl⟩ := List.mem_map.mp hl
        exact hargs hb a hann name hname
      have hcount : '\n' ∉ (toString a.comments.length).toList := not_mem_toString (by decide) _
      by_cases hcomments : a.comments.isEmpty = true
      · simp [hcode, hnames, hcomments]
      · simp [hcode, hnames, hcomments, Nat.toList_repr ▸ hcount]

end CodeBlock

namespace Rule

variable {r s : Rule}

/-- What follows the position on the line of a rule. -/
def tail (r : Rule) : String := (r.code.map CodeBlock.dump).getD ""

theorem toList_dump (r : Rule) :
    r.dump.toList =
      ' ' :: ' ' :: (r.name.toList ++ ' ' :: (r.index.render.toList ++ r.tail.toList)) := by
  simp [dump, tail]

theorem head?_tail (r : Rule) : ∀ c ∈ r.tail.toList.head?, c = ' ' := by
  intro c hc
  unfold tail at hc
  cases hr : r.code with
  | none =>
    rw [hr] at hc
    nomatch hc
  | some b =>
    obtain ⟨rest, hb⟩ := b.exists_dump
    rw [hr, Option.map_some, Option.getD_some, hb] at hc
    exact (Option.some.inj hc).symm

theorem identity_of_tail (h : r.tail = s.tail) :
    r.code.map (·.identity) = s.code.map (·.identity) := by
  have hne : ∀ b : CodeBlock, b.dump ≠ "" := fun b hb => by
    obtain ⟨rest, hrest⟩ := b.exists_dump
    rw [hb] at hrest
    nomatch hrest
  unfold tail at h
  cases hr : r.code with
  | none =>
    cases hs : s.code with
    | none => rfl
    | some c =>
      rw [hr, hs] at h
      exact absurd h.symm (hne c)
  | some b =>
    cases hs : s.code with
    | none =>
      rw [hr, hs] at h
      exact absurd h (hne b)
    | some c =>
      rw [hr, hs] at h
      exact congrArg some (CodeBlock.identity_of_dump h)

/-- **The line of a rule** tells its outline. -/
theorem outline_of_dump (hr : ' ' ∉ r.name.toList) (hs : ' ' ∉ s.name.toList)
    (h : r.dump = s.dump) : r.outline = s.outline := by
  have hspace : ∀ p : Position, ' ' ∉ p.render.toList := not_mem_render (by decide) (by decide)
  have hchars := congrArg String.toList h
  rw [toList_dump, toList_dump] at hchars
  have hfields := List.tail_eq_of_cons_eq (List.tail_eq_of_cons_eq hchars)
  obtain ⟨hname, hafter⟩ := field_inj hr hs (by simp) (by simp) hfields
  obtain ⟨hindex, htail⟩ := field_inj (hspace r.index) (hspace s.index) r.head?_tail s.head?_tail
    (List.tail_eq_of_cons_eq hafter)
  rw [outline, outline, String.toList_inj.mp hname, render_inj _ _ (String.toList_inj.mp hindex),
    identity_of_tail (String.toList_inj.mp htail)]

theorem newline_not_mem_dump (hname : '\n' ∉ r.name.toList)
    (hcode : ∀ b ∈ r.code, '\n' ∉ b.dump.toList) : '\n' ∉ r.dump.toList := by
  have hindex : '\n' ∉ r.index.render.toList := not_mem_render (by decide) (by decide) _
  have htail : '\n' ∉ r.tail.toList := by
    unfold tail
    cases hr : r.code with
    | none => exact List.not_mem_nil
    | some b => exact hcode b hr
  simp [toList_dump, hname, hindex, htail]

end Rule

/-! ## Lines of references -/

namespace ReferenceGroup

variable {g k : ReferenceGroup}

/-- **The line of a referenced name** tells the name and its occurrences. -/
theorem eq_of_dump (hg : ' ' ∉ g.name.toList) (hk : ' ' ∉ k.name.toList) (h : g.dump = k.dump) :
    g = k := by
  have hspace : ∀ p : Position, ' ' ∉ p.render.toList := not_mem_render (by decide) (by decide)
  unfold dump at h
  rw [String.append_assoc, String.append_assoc, String.append_right_inj, ← String.toList_inj,
    String.toList_append, String.toList_append] at h
  obtain ⟨hname, hoccurrences⟩ :=
    field_inj hg hk (head?_join_fields g.occurrences) (head?_join_fields k.occurrences) h
  obtain ⟨name, occurrences⟩ := g
  obtain ⟨name', occurrences'⟩ := k
  rw [ReferenceGroup.mk.injEq]
  exact ⟨String.toList_inj.mp hname,
    fields_inj hspace render_inj (String.toList_inj.mp hoccurrences)⟩

theorem newline_not_mem_dump (hname : '\n' ∉ g.name.toList) : '\n' ∉ g.dump.toList := by
  have hrender : ∀ p : Position, '\n' ∉ p.render.toList := not_mem_render (by decide) (by decide)
  simp [dump, hname, hrender, String.toList_join]

end ReferenceGroup

/-! ## The line of combinators -/

namespace Combinator

theorem name_inj (a b : Combinator) (h : a.name = b.name) : a = b := by
  cases a <;> cases b <;> first | rfl | (revert h; decide)

theorem not_mem_name {c : Char} (hc : c.isAlpha = false) (hunderscore : c ≠ '_') (a : Combinator) :
    c ∉ a.name.toList := by
  have hletters : (a.name.toList.all fun d => d.isAlpha || d == '_') = true := by
    cases a <;> decide
  intro hmem
  rcases Bool.or_eq_true_iff.mp (List.all_eq_true.mp hletters c hmem) with hletter | hletter
  · rw [hletter] at hc
    nomatch hc
  · exact hunderscore (beq_iff_eq.mp hletter)

end Combinator

/-! ## The lines of a table -/

/-- Lists with the same images under `f`, element by element, have the same images under `g` if `f`
tells `g`. -/
theorem map_eq_of_map_eq {α β γ : Type} {f : α → β} {g : α → γ} {xs ys : List α}
    (h : ∀ x ∈ xs, ∀ y ∈ ys, f x = f y → g x = g y) (heq : xs.map f = ys.map f) :
    xs.map g = ys.map g := by
  induction xs generalizing ys with
  | nil =>
    cases ys with
    | nil => rfl
    | cons y ys => nomatch heq
  | cons x xs ih =>
    cases ys with
    | nil => nomatch heq
    | cons y ys =>
      obtain ⟨hfirst, hrest⟩ := List.cons.inj heq
      rw [List.map_cons, List.map_cons, h x List.mem_cons_self y List.mem_cons_self hfirst,
        ih (fun x hx y hy => h x (List.mem_cons_of_mem _ hx) y (List.mem_cons_of_mem _ hy)) hrest]

namespace SymbolTable

variable {t u : SymbolTable}

theorem newline_not_mem_dumpLines (ht : t.IsPlain) (hargs : t.HasPlainArgs) :
    ∀ l ∈ t.dumpLines, '\n' ∉ l.toList := by
  intro l hl
  rcases List.mem_append.mp hl with hl | hl
  · rcases List.mem_append.mp hl with hl | hl
    · rcases List.mem_cons.mp hl with rfl | hl
      · decide
      · obtain ⟨r, hr, rfl⟩ := List.mem_map.mp hl
        exact Rule.newline_not_mem_dump (ht.rules r hr).2 fun b hb =>
          CodeBlock.newline_not_mem_dump (ht.code r hr b hb) (hargs r hr b hb)
    · rcases List.mem_cons.mp hl with rfl | hl
      · decide
      · obtain ⟨g, hg, rfl⟩ := List.mem_map.mp hl
        exact ReferenceGroup.newline_not_mem_dump (ht.references g hg).2
  · rw [List.mem_singleton.mp hl]
    have hname : ∀ c : Combinator, '\n' ∉ c.name.toList :=
      Combinator.not_mem_name (by decide) (by decide)
    simp [hname, String.toList_join]

/-- A heading is no line of a rule. -/
theorem heading_not_mem (rules : List Rule) : "references" ∉ rules.map Rule.dump := by
  intro hmem
  obtain ⟨r, -, hr⟩ := List.mem_map.mp hmem
  have hchars := r.toList_dump
  rw [hr] at hchars
  nomatch hchars

/-- **The lines of a table** tell which of them are of rules and which of names. -/
theorem dumpLines_inj (h : t.dumpLines = u.dumpLines) :
    t.rules.map Rule.dump = u.rules.map Rule.dump ∧
      t.references.map ReferenceGroup.dump = u.references.map ReferenceGroup.dump ∧
      String.join (t.combinators.toList.map fun c => " " ++ c.name) =
        String.join (u.combinators.toList.map fun c => " " ++ c.name) := by
  unfold dumpLines at h
  rw [List.append_assoc, List.append_assoc] at h
  obtain ⟨hrules, hafter⟩ := field_inj (heading_not_mem t.rules) (heading_not_mem u.rules)
    (by simp) (by simp) (List.tail_eq_of_cons_eq h)
  obtain ⟨hreferences, hlast⟩ := List.append_inj' (List.tail_eq_of_cons_eq hafter) rfl
  exact ⟨hrules, hreferences, (String.append_right_inj _).mp (List.singleton_inj.mp hlast)⟩

/-- **Tables with the same print have the same outline.** -/
theorem sameOutline_of_dump (ht : t.IsPlain) (hu : u.IsPlain) (htargs : t.HasPlainArgs)
    (huargs : u.HasPlainArgs) (h : t.dump = u.dump) : t.SameOutline u := by
  have hlines : t.dumpLines = u.dumpLines :=
    lines_inj (by simp [dumpLines]) (by simp [dumpLines]) (newline_not_mem_dumpLines ht htargs)
      (newline_not_mem_dumpLines hu huargs) h
  obtain ⟨hrules, hreferences, hcombinators⟩ := dumpLines_inj hlines
  refine ⟨?_, ?_, ?_⟩
  · exact map_eq_of_map_eq
      (fun r hr s hs => Rule.outline_of_dump (ht.rules r hr).1 (hu.rules s hs).1) hrules
  · have hsame := map_eq_of_map_eq (g := id) (fun g hg k hk =>
      ReferenceGroup.eq_of_dump (ht.references g hg).1 (hu.references k hk).1) hreferences
    rwa [List.map_id, List.map_id] at hsame
  · have hspace : ∀ c : Combinator, ' ' ∉ c.name.toList :=
      Combinator.not_mem_name (by decide) (by decide)
    have hlist := fields_inj hspace Combinator.name_inj hcombinators
    exact OrderedSet.ext fun c => by rw [OrderedSet.mem_def, OrderedSet.mem_def, hlist]

/-- A table with a rule named like a heading and a name without occurrences. -/
def sampleTable (code : String) : SymbolTable where
  rules :=
    [⟨"references", ⟨1, 1⟩, some ⟨code, ⟨1, 9⟩, false, some ⟨[], [], .ofList ["idx", "node"]⟩⟩⟩,
      ⟨"b", ⟨12, 1⟩, some ⟨"", ⟨12, 9⟩, true, none⟩⟩, ⟨"c", ⟨13, 1⟩, none⟩]
  references := [⟨"b", [⟨1, 5⟩, ⟨13, 10⟩]⟩, ⟨"combinators", []⟩]
  combinators := .ofList [.zeroOrMore, .choice]

/-- The print does not show the blanks around code. -/
theorem sameOutline_of_dump_sample :
    (sampleTable "f()").IsPlain ∧ (sampleTable " f() ").IsPlain ∧
      (sampleTable "f()").HasPlainArgs ∧ (sampleTable " f() ").HasPlainArgs ∧
      (sampleTable "f()").dump = (sampleTable " f() ").dump ∧
      sampleTable "f()" ≠ sampleTable " f() " ∧
      (sampleTable "f()").SameOutline (sampleTable " f() ") := by
  have ht : (sampleTable "f()").IsPlain := ⟨by decide, by decide, by decide⟩
  have hu : (sampleTable " f() ").IsPlain := ⟨by decide, by decide, by decide⟩
  have htargs : (sampleTable "f()").HasPlainArgs := by decide
  have huargs : (sampleTable " f() ").HasPlainArgs := by decide
  have hdump : (sampleTable "f()").dump = (sampleTable " f() ").dump := by decide
  exact ⟨ht, hu, htargs, huargs, hdump, by decide, sameOutline_of_dump ht hu htargs huargs hdump⟩

example : (sampleTable " f() ").dump =
    "rules\n  references 1:1 \x7b f() \x7d uses=[idx,node]\n  b 12:1 (identity)\n  c 13:1\n" ++
      "references\n  b 1:5 13:10\n  combinators\ncombinators choice zero_or_more" := by decide

/-- **A recorded name with a newline** can close its own line and be the line of one more rule. -/
theorem not_sameOutline_of_args :
    ∃ t u : SymbolTable, t.IsPlain ∧ u.IsPlain ∧ t.dump = u.dump ∧ ¬ t.SameOutline u := by
  let rule (name : String) (line : Nat) (code : String) (args : List String) : Rule :=
    ⟨name, ⟨line, 1⟩, some ⟨code, ⟨line, 9⟩, false, some ⟨[], [], .ofList args⟩⟩⟩
  refine ⟨⟨[rule "a" 1 "x" ["]\n  b 2:1 \x7b y \x7d uses=["]], [], ∅⟩,
    ⟨[rule "a" 1 "x" [], rule "b" 2 "y" []], [], ∅⟩, ⟨by decide, by decide, by decide⟩,
    ⟨by decide, by decide, by decide⟩, by decide, fun h => ?_⟩
  exact absurd h.rules (by decide)

end SymbolTable

end PegCheck
