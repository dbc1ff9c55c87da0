import PegCheck.Proofs.Host.Movement
import PegCheck.Proofs.Host.Semicolons

/-!
# Trees told from their tokens

A front end hands on the tokens of a snippet in one list, without the trees that they come from.
Nothing is lost by that: the delimiters in the list are nested as the groups are, so the matching of
brackets that makes trees from the pieces of a source makes them from their tokens again. Only the
spacing of punctuation is gone. A group without visible delimiters shows as what is in it.

* `Nested`: every opening delimiter of a list of tokens has its closing partner.
* `rebuild`: trees from tokens; `nest_flattenAll`: what one run over the tokens of trees does.
* `bareAll`: trees without spacing and places; `shapes_eq_iff`: trees that show the same kinds and
  texts differ in nothing else.
* `splicedAll`: trees with the contents of invisible groups in place of these groups.
* **`flattenAll_describes`**: what a list of tokens says of its trees.
* **`parse_describes`**: the trees of a snippet that is accepted can be told from its tokens.
-/

namespace PegCheck

/-! ## Places and positions -/

namespace Position

/-- The place in a snippet that begins at `start` to which position `p` belongs. -/
def placeOf (start p : Position) : Place :=
  if p.line = start.line then ⟨1, p.column - start.column⟩
  else ⟨p.line + 1 - start.line, p.column - 1⟩

theorem offsetBy_placeOf (start : Position) (place : Place) :
    start.offsetBy (start.placeOf (start.offsetBy place)) = start.offsetBy place := by
  unfold placeOf offsetBy
  by_cases hline : place.line ≤ 1
  · simp [hline]
  · have hlater : ¬ start.line + place.line - 1 = start.line := by omega
    have hsecond : ¬ start.line + place.line - 1 + 1 - start.line ≤ 1 := by omega
    simp only [if_neg hline, if_neg hlater, if_neg hsecond, eq_iff]
    omega

end Position

/-- What a token shows, wherever it stands. -/
def HostToken.shape (t : HostToken) : TokenKind × String := (t.kind, t.text)

namespace Host

/-! ## Nested tokens -/

/-- The delimiters among the tokens are nested, and each closes the kind that it was opened with. -/
inductive Nested : List HostToken → Prop where
  | nil : Nested []
  | leaf {t : HostToken} {ts : List HostToken} (hkind : t.kind ≠ .delimiter) (hts : Nested ts) :
      Nested (t :: ts)
  | group {d : Delimiter} {opening close : String} {inside after : List HostToken} {p q : Position}
      (hmarks : d.marks? = some (opening, close)) (hinside : Nested inside)
      (hafter : Nested after) :
      Nested (⟨.delimiter, opening, p⟩ :: (inside ++ ⟨.delimiter, close, q⟩ :: after))

theorem Nested.append {ts us : List HostToken} (hts : Nested ts) (hus : Nested us) :
    Nested (ts ++ us) := by
  induction hts with
  | nil => exact hus
  | leaf hkind _ ih => exact .leaf hkind ih
  | group hmarks hinside _ _ ih =>
    rw [List.cons_append, List.append_assoc, List.cons_append]
    exact .group hmarks hinside ih

/-- The piece that a token would be read from, at the place that `locate` gives for it. -/
def Piece.ofToken (locate : Position → Place) (t : HostToken) : Piece where
  kind :=
    match t.kind with
    | .ident => .ident
    | .punct => .punct false
    | .literal => .literal
    | .delimiter => (t.text.toList.head?.bind Lexer.delimiter?).getD .blank
  place := locate t.position
  text := t.text.toList

namespace Tree

variable {start : Position} {locate : Position → Place} {frames : List Frame} {done : List Tree}
  {fault : Option Place} {p : Piece} {ps : List Piece} {d : Delimiter} {opening close : String}

theorem exists_marks (hd : d ≠ .invisible) : ∃ opening close, d.marks? = some (opening, close) := by
  cases d with
  | invisible => exact absurd rfl hd
  | parenthesis | bracket | brace => exact ⟨_, _, rfl⟩

theorem flatten_of_marks (hmarks : d.marks? = some (opening, close)) (content : List Tree)
    (opened closed : Place) :
    (group d content opened closed).flatten start =
      ⟨.delimiter, opening, start.offsetBy opened⟩ ::
        (flattenAll start content ++ [⟨.delimiter, close, start.offsetBy closed⟩]) := by
  rw [flatten, hmarks]

mutual

theorem nested_flatten (t : Tree) : Nested (t.flatten start) := by
  cases t with
  | ident | punct | literal => exact .leaf nofun .nil
  | group d content opened closed =>
    have hinside : Nested (flattenAll start content) := nested_flattenAll content
    cases hmarks : d.marks? with
    | some marks =>
      rw [flatten_of_marks hmarks]
      exact .group hmarks hinside .nil
    | none =>
      rw [flatten, hmarks]
      exact hinside

theorem nested_flattenAll (ts : List Tree) : Nested (flattenAll start ts) := by
  cases ts with
  | nil => exact .nil
  | cons t ts => exact (nested_flatten t).append (nested_flattenAll ts)

end

/-! ## Trees from tokens -/

mutual

/-- Are the delimiters of all groups of the tree visible? -/
def isVisible : Tree → Bool
  | group d content _ _ => d != .invisible && allVisible content
  | _ => true

/-- Are the delimiters of all groups of the trees visible? -/
def allVisible : List Tree → Bool
  | [] => true
  | t :: ts => t.isVisible && allVisible ts

end

/-- The trees that the brackets of a list of tokens make. -/
def rebuild (locate : Position → Place) (tokens : List HostToken) : Except Place (List Tree) :=
  nest [] [] none (tokens.map (Piece.ofToken locate))

/-- The mark of a delimiter is read as that delimiter. -/
theorem kind_ofToken (hmarks : d.marks? = some (opening, close)) (position : Position) :
    (Piece.ofToken locate ⟨.delimiter, opening, position⟩).kind = .opening d ∧
      (Piece.ofToken locate ⟨.delimiter, close, position⟩).kind = .closing d := by
  cases d <;> cases hmarks <;> simp [Piece.ofToken, Lexer.delimiter?]

theorem nest_opening (h : p.kind = .opening d) :
    nest frames done fault (p :: ps) = nest (⟨d, p.place, done⟩ :: frames) [] fault ps := by
  rw [nest, h]

theorem nest_closing (h : p.kind = .closing d) {opened : Place} {before : List Tree} :
    nest (⟨d, opened, before⟩ :: frames) done fault (p :: ps) =
      nest frames (group d done.reverse opened p.place :: before) fault ps := by
  rw [nest, h]
  exact if_pos rfl

mutual

theorem nest_flatten (t : Tree) (h : t.isVisible = true) (frames : List Frame) (done : List Tree)
    (ps : List Piece) :
    nest frames done none ((t.flatten start).map (Piece.ofToken locate) ++ ps) =
      nest frames (t.plain (fun place => locate (start.offsetBy place)) :: done) none ps := by
  cases t with
  | ident text place => simp [flatten, Piece.ofToken, nest, ofPiece, plain]
  | punct c joint place => simp [flatten, Piece.ofToken, nest, ofPiece, plain]
  | literal text place => simp [flatten, Piece.ofToken, nest, ofPiece, plain]
  | group d content opened closed =>
    rw [isVisible, Bool.and_eq_true, bne_iff_ne] at h
    obtain ⟨opening, close, hmarks⟩ := exists_marks h.1
    -- The content runs in a frame of its own, which the closing delimiter takes away again.
    have hinside := nest_flattenAll content h.2
    rw [flatten_of_marks hmarks, List.map_cons, List.map_append, List.cons_append,
      List.append_assoc, nest_opening (kind_ofToken hmarks _).1, hinside, List.map_singleton,
      List.singleton_append, nest_closing (kind_ofToken hmarks _).2, List.append_nil,
      List.reverse_reverse, plain]
    rfl

/-- **One run over the tokens of trees** puts the trees behind those that are done, without their
spacing and with the places that are found for their positions. -/
theorem nest_flattenAll (ts : List Tree) (h : allVisible ts = true) (frames : List Frame)
    (done : List Tree) (ps : List Piece) :
    nest frames done none ((flattenAll start ts).map (Piece.ofToken locate) ++ ps) =
      nest frames ((plainAll (fun place => locate (start.offsetBy place)) ts).reverse ++ done) none
        ps := by
  cases ts with
  | nil => rfl
  | cons t ts =>
    rw [allVisible, Bool.and_eq_true] at h
    rw [flattenAll, List.map_append, List.append_assoc, nest_flatten t h.1,
      nest_flattenAll ts h.2, plainAll, List.reverse_cons, List.append_assoc,
      List.singleton_append]

end

theorem rebuild_flattenAll (start : Position) (locate : Position → Place) {ts : List Tree}
    (h : allVisible ts = true) :
    rebuild locate (flattenAll start ts) =
      .ok (plainAll (fun place => locate (start.offsetBy place)) ts) := by
  have hrun : nest [] [] none ((flattenAll start ts).map (Piece.ofToken locate) ++ []) = _ :=
    nest_flattenAll ts h [] [] []
  rw [List.append_nil, List.append_nil] at hrun
  rw [rebuild, hrun, nest, List.reverse_reverse]

/-! ## What is lost -/

mutual

theorem plain_plain (f g : Place → Place) (t : Tree) :
    (t.plain g).plain f = t.plain fun place => f (g place) := by
  cases t with
  | ident | punct | literal => rfl
  | group d content opened closed => rw [plain, plain, plainAll_plainAll, plain]

theorem plainAll_plainAll (f g : Place → Place) (ts : List Tree) :
    plainAll f (plainAll g ts) = plainAll (fun place => f (g place)) ts := by
  cases ts with
  | nil => rfl
  | cons t ts => rw [plainAll, plainAll, plain_plain, plainAll_plainAll, plainAll]

end

/-- The trees without their spacing and places. -/
def bareAll (ts : List Tree) : List Tree := plainAll (fun _ => .origin) ts

theorem shapes_bareAll (start : Position) (ts : List Tree) :
    (flattenAll .origin (bareAll ts)).map HostToken.shape =
      (flattenAll start ts).map HostToken.shape := by
  have hconst : ∀ place, Function.const _ Position.origin (start.offsetBy place) =
      Position.origin.offsetBy .origin := fun _ => (Position.offsetBy_origin _).symm
  rw [bareAll, flattenAll_plainAll hconst, List.map_map]
  rfl

/-- **Trees that show the same kinds and texts** differ in nothing but spacing and places. -/
theorem shapes_eq_iff (start start' : Position) {ts us : List Tree} (hts : allVisible ts = true)
    (hus : allVisible us = true) :
    (flattenAll start ts).map HostToken.shape = (flattenAll start' us).map HostToken.shape ↔
      bareAll ts = bareAll us := by
  constructor
  · intro hshapes
    -- Where all places are the same, a token is read by what it shows.
    have hpieces : ∀ tokens : List HostToken,
        tokens.map (Piece.ofToken fun _ => .origin) =
          (tokens.map HostToken.shape).map fun shape =>
            Piece.ofToken (fun _ => .origin) ⟨shape.1, shape.2, .origin⟩ := fun tokens => by
      rw [List.map_map]
      rfl
    have hrebuilt : rebuild (fun _ => .origin) (flattenAll start ts) =
        rebuild (fun _ => .origin) (flattenAll start' us) := by
      rw [rebuild, rebuild, hpieces, hpieces, hshapes]
    rw [rebuild_flattenAll start _ hts, rebuild_flattenAll start' _ hus] at hrebuilt
    exact Except.ok.inj hrebuilt
  · intro hbare
    rw [← shapes_bareAll start ts, hbare, shapes_bareAll start' us]

/-! ## Leaves -/

mutual

/-- The kinds, texts and places of the leaves of the tree, in order. -/
def leaves : Tree → List (TokenKind × String × Place)
  | ident text place => [(.ident, text, place)]
  | punct c _ place => [(.punct, String.singleton c, place)]
  | literal text place => [(.literal, text, place)]
  | group _ content _ _ => leavesAll content

/-- The kinds, texts and places of the leaves of the trees, in order. -/
def leavesAll : List Tree → List (TokenKind × String × Place)
  | [] => []
  | t :: ts => t.leaves ++ leavesAll ts

end

mutual

theorem filter_flatten (t : Tree) :
    (t.flatten start).filter (·.kind != .delimiter) =
      t.leaves.map fun (kind, text, place) => ⟨kind, text, start.offsetBy place⟩ := by
  cases t with
  | ident | punct | literal => rfl
  | group d content opened closed =>
    have ih := filter_flattenAll content
    cases hmarks : d.marks? with
    | some marks =>
      rw [flatten_of_marks hmarks, leaves, ← ih]
      simp
    | none => rw [flatten, hmarks, leaves, ← ih]

/-- The tokens that are no delimiters are the leaves. -/
theorem filter_flattenAll (ts : List Tree) :
    (flattenAll start ts).filter (·.kind != .delimiter) =
      (leavesAll ts).map fun (kind, text, place) => ⟨kind, text, start.offsetBy place⟩ := by
  cases ts with
  | nil => rfl
  | cons t ts =>
    rw [flattenAll, leavesAll, List.filter_append, List.map_append, filter_flatten,
      filter_flattenAll]

end

/-! ## Invisible groups -/

mutual

/-- The tree with the contents of invisible groups in place of these groups. -/
def spliced : Tree → List Tree
  | group d content opened closed =>
    if d = .invisible then splicedAll content else [group d (splicedAll content) opened closed]
  | t => [t]

/-- The trees with the contents of invisible groups in place of these groups. -/
def splicedAll : List Tree → List Tree
  | [] => []
  | t :: ts => t.spliced ++ splicedAll ts

end

theorem allVisible_append {ts us : List Tree} :
    allVisible (ts ++ us) = (allVisible ts && allVisible us) := by
  induction ts with
  | nil => rfl
  | cons t ts ih => rw [List.cons_append, allVisible, allVisible, ih, Bool.and_assoc]

mutual

theorem allVisible_spliced (t : Tree) : allVisible t.spliced = true := by
  cases t with
  | ident | punct | literal => rfl
  | group d content opened closed =>
    have ih := allVisible_splicedAll content
    by_cases hd : d = .invisible
    · rw [spliced, if_pos hd]
      exact ih
    · rw [spliced, if_neg hd]
      simpa [allVisible, isVisible, ih] using hd

theorem allVisible_splicedAll (ts : List Tree) : allVisible (splicedAll ts) = true := by
  cases ts with
  | nil => rfl
  | cons t ts =>
    rw [splicedAll, allVisible_append, allVisible_spliced t, allVisible_splicedAll ts]
    rfl

end

mutual

theorem flattenAll_spliced (t : Tree) : flattenAll start t.spliced = t.flatten start := by
  cases t with
  | ident | punct | literal => rfl
  | group d content opened closed =>
    have ih := flattenAll_splicedAll content
    by_cases hd : d = .invisible
    · rw [spliced, if_pos hd, ih, hd]
      rfl
    · obtain ⟨opening, close, hmarks⟩ := exists_marks hd
      rw [spliced, if_neg hd, flattenAll, flattenAll, List.append_nil, flatten_of_marks hmarks,
        flatten_of_marks hmarks, ih]

/-- An invisible group shows as what is in it. -/
theorem flattenAll_splicedAll (ts : List Tree) :
    flattenAll start (splicedAll ts) = flattenAll start ts := by
  cases ts with
  | nil => rfl
  | cons t ts =>
    rw [splicedAll, flattenAll_append, flattenAll_spliced, flattenAll_splicedAll, flattenAll]

end

mutual

theorem isVisible_of_strange (t : Tree) (h : Weight.strange.tree t = 0) : t.isVisible = true := by
  cases t with
  | ident | punct | literal => rfl
  | group d content opened closed =>
    rw [Weight.tree_group] at h
    obtain ⟨hd, hcontent⟩ := Nat.add_eq_zero_iff.mp h
    rw [isVisible, allVisible_of_strange content hcontent, Bool.and_true, bne_iff_ne]
    rintro rfl
    nomatch hd

/-- Trees with nothing in them that no source has are visible. -/
theorem allVisible_of_strange (ts : List Tree) (h : Weight.strange.trees ts = 0) :
    allVisible ts = true := by
  cases ts with
  | nil => rfl
  | cons t ts =>
    obtain ⟨ht, hts⟩ := Nat.add_eq_zero_iff.mp h
    rw [allVisible, isVisible_of_strange t ht, allVisible_of_strange ts hts]
    rfl

end

/-! ## What tokens say of trees -/

/-- The tokens are those of the trees, which can be told from them but for their spacing. -/
structure Describes (start : Position) (tokens : List HostToken) (ts : List Tree) : Prop where
  nested : Nested tokens
  /-- Matching the brackets gives the trees again, with places that have the same positions. -/
  rebuilt : ∃ us, rebuild start.placeOf tokens = .ok us ∧ bareAll us = bareAll ts ∧
    flattenAll start us = tokens
  /-- No other trees show the same kinds and texts, wherever they begin. -/
  unique : ∀ (start' : Position) (us : List Tree), allVisible us = true →
    (tokens.map HostToken.shape = (flattenAll start' us).map HostToken.shape ↔
      bareAll ts = bareAll us)
  leaves : tokens.filter (·.kind != .delimiter) =
    (leavesAll ts).map fun (kind, text, place) => ⟨kind, text, start.offsetBy place⟩

theorem describes_of_visible (start : Position) {ts : List Tree} (h : allVisible ts = true) :
    Describes start (flattenAll start ts) ts where
  nested := nested_flattenAll ts
  rebuilt := by
    refine ⟨_, rebuild_flattenAll start start.placeOf h, plainAll_plainAll _ _ ts, ?_⟩
    exact flattenAll_plainAll_of_eq (fun place => (start.offsetBy_placeOf place).symm) ts
  unique start' _ hus := shapes_eq_iff start start' h hus
  leaves := filter_flattenAll ts

/-- **What tokens say of trees.** Trees without invisible groups can be told from their tokens by
matching brackets, up to their spacing. Where there are invisible groups, the tokens are those of
the trees in which each of these groups is replaced by its content. -/
theorem flattenAll_describes (start : Position) (ts : List Tree) :
    (allVisible ts = true → Describes start (flattenAll start ts) ts) ∧
      allVisible (splicedAll ts) = true ∧ flattenAll start (splicedAll ts) = flattenAll start ts :=
  ⟨describes_of_visible start, allVisible_splicedAll ts, flattenAll_splicedAll ts⟩

/-- Groups of all kinds of visible delimiter, one of them empty, and a literal that has a bracket in
its text. -/
def sampleTrees : List Tree :=
  [.ident "f" ⟨1, 0⟩,
    .group .parenthesis
      [.group .bracket [.ident "node" ⟨1, 3⟩, .punct ',' false ⟨1, 7⟩, .literal "'('" ⟨2, 1⟩]
          ⟨1, 2⟩ ⟨2, 4⟩,
        .punct '-' true ⟨2, 5⟩, .punct '>' false ⟨2, 6⟩, .group .brace [] ⟨2, 7⟩ ⟨2, 8⟩]
      ⟨1, 1⟩ ⟨2, 9⟩]

theorem flattenAll_describes_sample :
    allVisible sampleTrees = true ∧
      (flattenAll ⟨3, 7⟩ sampleTrees).map (·.text) =
        ["f", "(", "[", "node", ",", "'('", "]", "-", ">", "\x7b", "\x7d", ")"] ∧
      Describes ⟨3, 7⟩ (flattenAll ⟨3, 7⟩ sampleTrees) sampleTrees := by
  have hvisible : allVisible sampleTrees = true := by decide
  exact ⟨hvisible, by decide, (flattenAll_describes ⟨3, 7⟩ sampleTrees).1 hvisible⟩

end Tree

/-- **The trees of a snippet** that is accepted can be told from its tokens. -/
theorem parse_describes {code : String} {start : Position} {parsed : ParsedCode}
    (h : parse code start = .ok parsed) :
    ∃ trees, Tree.read code.toList = .ok trees ∧ Tree.Describes start parsed.tokens trees := by
  obtain ⟨trees, forms, hread, -, rfl⟩ := exists_trees_of_parse h
  have hvisible := Tree.allVisible_of_strange trees (strange_read hread)
  exact ⟨trees, hread, Tree.describes_of_visible start hvisible⟩

end Host

end PegCheck
