import PegCheck.Proofs.Host.Movement

/-!
# Where a snippet begins

A front end reads a snippet with the position at which it begins in the grammar source, and gives
positions of that source. The position only moves the result: reading the snippet at the very
beginning of a source and moving every position afterwards gives the same.

* `Position.relocate`: where a position of a snippet that begins at the origin lies when the snippet
  begins elsewhere. The first line moves sideways and down, every other line only down.
* `Position.relocate_offsetBy`: all positions in a result are those of places of the snippet, and a
  place of the snippet is moved in this way.
* `FrontEnd.Relocates`: reading at a start is reading at the origin and moving the result. A front
  end does so if it follows every map that carries one beginning of a snippet to another.
* **`frontEnds_relocate`**: this holds of the default front end and of every front end for words.
* **`FrontEnd.Follows.wrapping_eq`**: with its positions in words of 32 bits such a front end gives
  the same, as long as no position overflows.
-/

namespace PegCheck

/-! ## Moving positions -/

namespace Position

/-- Where a position of a text that begins at the origin lies when the text begins at `start`. -/
def relocate (start p : Position) : Position :=
  if p.line = 1 then ⟨start.line, start.column + p.column - 1⟩
  else ⟨start.line + p.line - 1, p.column⟩

/-- **The place of a snippet is moved** by moving its position in the snippet alone. -/
theorem relocate_offsetBy (start : Position) (place : Place) :
    start.relocate (origin.offsetBy place) = start.offsetBy place := by
  unfold relocate offsetBy origin
  by_cases hline : place.line ≤ 1
  · simp only [if_pos hline, if_true, eq_iff, true_and]
    omega
  · have hfirst : ¬ 1 + place.line - 1 = 1 := by omega
    simp only [if_neg hline, if_neg hfirst, eq_iff, and_true]
    omega

end Position

/-- The token at the position to which it is moved. -/
def HostToken.relocate (start : Position) (t : HostToken) : HostToken :=
  { t with position := start.relocate t.position }

/-- The form at the position to which it is moved. -/
def HostForm.relocate (start : Position) (f : HostForm) : HostForm :=
  { f with position := start.relocate f.position }

/-- The comment at the position to which it is moved. -/
def Comment.relocate (start : Position) (c : Comment) : Comment :=
  { c with position := start.relocate c.position }

/-- The result with all its positions moved. -/
def ParsedCode.relocate (start : Position) (r : ParsedCode) : ParsedCode where
  tokens := r.tokens.map (HostToken.relocate start)
  forms := r.forms.map (HostForm.relocate start)
  finish := start.relocate r.finish

/-- The fault at the position to which it is moved. -/
def HostError.relocate (start : Position) : HostError → HostError
  | .lexical info location => .lexical info (start.relocate location)
  | .grammatical reason location => .grammatical reason (start.relocate location)

/-- Relocating carries a snippet from the origin to where it begins. -/
theorem Position.carries_relocate (start : Position) :
    Carries (relocate start) .origin start := relocate_offsetBy start

namespace FrontEnd

/-- Reading a snippet at a start is reading it at the origin and moving what is found, and so it is
with its comments. The parameters in use are those found at the origin. -/
structure Relocates (frontEnd : FrontEnd) : Prop where
  parse (code : String) (start : Position) :
    frontEnd.parse code start =
      match frontEnd.parse code .origin with
      | .ok parsed => .ok (parsed.relocate start)
      | .error e => .error (e.relocate start)
  comments (code : String) (start : Position) :
    frontEnd.comments code start =
      (frontEnd.comments code .origin).map (Comment.relocate start)
  usedIn (params : ImplicitParams) (code : String) (start : Position) :
    ((frontEnd.parse code start).map fun parsed => params.usedIn parsed.tokens).toOption =
      ((frontEnd.parse code .origin).map fun parsed => params.usedIn parsed.tokens).toOption

/-- Relocating is one way of moving a snippet, and the parameters in use follow from the tokens. -/
theorem Follows.relocates {frontEnd : FrontEnd} (h : frontEnd.Follows) : frontEnd.Relocates where
  parse code start := h.parse (Position.carries_relocate start) code
  comments code start := h.comments (Position.carries_relocate start) code
  usedIn params code start := by
    rw [h.parse (Position.carries_relocate start) code]
    cases frontEnd.parse code .origin with
    | error e => rfl
    | ok parsed => exact congrArg some (params.usedIn_move (.relocate start) parsed.tokens)

end FrontEnd

theorem Host.frontEnd_relocates : Host.frontEnd.Relocates := Host.frontEnd_follows.relocates

theorem Words.frontEnd_relocates (rejections : List Words.Rejection) :
    (Words.frontEnd rejections).Relocates := (Words.frontEnd_follows rejections).relocates

/-- **The start of a snippet only moves the result**, with the default front end and with every
front end for words: whether a snippet is accepted, its tokens, forms, comments and faults in all
but their positions, and the parameters that it uses do not depend on where it begins. -/
theorem frontEnds_relocate :
    Host.frontEnd.Relocates ∧ ∀ rejections, (Words.frontEnd rejections).Relocates :=
  ⟨Host.frontEnd_relocates, Words.frontEnd_relocates⟩

/-! ## Words of 32 bits -/

/-- All positions in a result. -/
def ParsedCode.positions (r : ParsedCode) : List Position :=
  r.tokens.map (·.position) ++ (r.forms.map (·.position) ++ [r.finish])

/-- Maps of positions that do the same to all positions in a result move it in the same way. -/
theorem ParsedCode.move_congr {f g : Position → Position} {r : ParsedCode}
    (h : ∀ p ∈ r.positions, f p = g p) : r.move f = r.move g := by
  rw [positions, List.forall_mem_append, List.forall_mem_append, List.forall_mem_map,
    List.forall_mem_map, List.forall_mem_singleton] at h
  obtain ⟨htokens, hforms, hfinish⟩ := h
  have hmoved : r.tokens.map (HostToken.move f) = r.tokens.map (HostToken.move g) :=
    List.map_congr_left fun t ht => by simp [HostToken.move, htokens t ht]
  have hmoved' : r.forms.map (HostForm.move f) = r.forms.map (HostForm.move g) :=
    List.map_congr_left fun form hform => by simp [HostForm.move, hforms form hform]
  rw [move, move, hmoved, hmoved', hfinish]

theorem HostError.move_congr {f g : Position → Position} {e : HostError}
    (h : f e.location = g e.location) : e.move f = e.move g := by
  cases e with
  | lexical info location => exact congrArg (lexical info) h
  | grammatical reason location => exact congrArg (grammatical reason) h

/-- All positions that a front end gives for a snippet that begins at the origin. -/
def FrontEnd.positions (frontEnd : FrontEnd) (code : String) : List Position :=
  (match frontEnd.parse code .origin with
    | .ok parsed => parsed.positions
    | .error e => [e.location]) ++ (frontEnd.comments code .origin).map (·.position)

/-- **Without overflow** a front end gives the same with its positions in words: the same result for
a snippet, and the same comments. -/
theorem FrontEnd.Follows.wrapping_eq {frontEnd : FrontEnd} (h : frontEnd.Follows) {code : String}
    {start : Position} (hreach : ∀ p ∈ frontEnd.positions code, start.Reaches p.place) :
    frontEnd.wrapping.parse code start = frontEnd.parse code start ∧
      frontEnd.wrapping.comments code start = frontEnd.comments code start := by
  have hcarries : Position.Carries (fun p => start.offsetBy p.place) .origin start :=
    start.offsetBy_place
  have hsame (p : Position) (hp : p ∈ frontEnd.positions code) :
      start.relocateWrapping p = start.offsetBy p.place :=
    Position.offsetWrapping_eq (hreach p hp)
  rw [positions, List.forall_mem_append, List.forall_mem_map] at hsame
  obtain ⟨hresult, hcomments⟩ := hsame
  constructor
  · rw [h.parse hcarries, wrapping]
    dsimp only
    cases hparse : frontEnd.parse code .origin with
    | error e =>
      rw [hparse] at hresult
      exact congrArg Except.error (HostError.move_congr (hresult _ (List.mem_singleton_self _)))
    | ok parsed =>
      rw [hparse] at hresult
      exact congrArg Except.ok (ParsedCode.move_congr hresult)
  · rw [h.comments hcarries]
    exact List.map_congr_left fun c hc => by simp [Comment.move, hcomments c hc]

end PegCheck
