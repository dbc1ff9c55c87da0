import PegCheck.Host.Front
import PegCheck.Host.Words
import Mathlib.Data.List.Basic

/-!
# Moving a snippet

A front end is told where a snippet begins in the grammar source, and from there it computes all the
positions that it gives. Every one of them is that of a place of the snippet. So if a map of
positions takes each place of a snippet that begins at `s` to the same place of the snippet that
begins at `s'`, it takes the whole result for the one to the result for the other.

* `Position.Carries`: what is asked of the map.
* `Tree.plainAll`: a map of places applied to trees; `Tree.flattenAll_plainAll`: their tokens.
* `FrontEnd.Follows`: reading at `s'` is reading at `s` and moving the result.
* `Host.frontEnd_follows`, `Words.frontEnd_follows`: both front ends do so. The lemmas before them
  follow the functions of each front end one by one.
-/

namespace PegCheck

/-- Identifiers stay identifiers wherever they are. -/
theorem ImplicitParams.usedIn_move (f : Position → Position) (params : ImplicitParams)
    (tokens : List HostToken) : params.usedIn (tokens.map (HostToken.move f)) = params.usedIn tokens := by
  unfold usedIn
  rw [List.filter_map, List.map_map]
  rfl

/-- The map takes every place of a snippet that begins at `s` to the same place of the snippet that
begins at `s'`. -/
def Position.Carries (f : Position → Position) (s s' : Position) : Prop :=
  ∀ place, f (s.offsetBy place) = s'.offsetBy place

/-- Where the places of a snippet go, the results about it go. -/
structure FrontEnd.Follows (frontEnd : FrontEnd) : Prop where
  parse {f : Position → Position} {s s' : Position} (h : Position.Carries f s s') (code : String) :
    frontEnd.parse code s' =
      match frontEnd.parse code s with
      | .ok parsed => .ok (parsed.move f)
      | .error e => .error (e.move f)
  comments {f : Position → Position} {s s' : Position} (h : Position.Carries f s s')
    (code : String) : frontEnd.comments code s' = (frontEnd.comments code s).map (Comment.move f)

section Carries

variable {f : Position → Position} {s s' : Position}

theorem Position.Carries.start (h : Carries f s s') : f s = s' := by
  have horigin := h .origin
  rwa [offsetBy_origin, offsetBy_origin] at horigin

theorem Position.Carries.endPosition (h : Carries f s s') (source : List Char) :
    f (endPosition source s) = PegCheck.endPosition source s' := h _

/-! ## The default front end -/

namespace Host

namespace Tree

mutual

/-- The tree without spacing and with all its places mapped. -/
def plain (g : Place → Place) : Tree → Tree
  | ident text place => ident text (g place)
  | punct c _ place => punct c false (g place)
  | literal text place => literal text (g place)
  | group d content opened closed => group d (plainAll g content) (g opened) (g closed)

/-- The trees without spacing and with all their places mapped. -/
def plainAll (g : Place → Place) : List Tree → List Tree
  | [] => []
  | t :: ts => t.plain g :: plainAll g ts

end

variable {g : Place → Place}

mutual

theorem flatten_plain (h : ∀ place, f (s.offsetBy place) = s'.offsetBy (g place)) (t : Tree) :
    (t.plain g).flatten s' = (t.flatten s).map (HostToken.move f) := by
  cases t with
  | ident text place => simp [plain, flatten, HostToken.move, h place]
  | punct c joint place => simp [plain, flatten, HostToken.move, h place]
  | literal text place => simp [plain, flatten, HostToken.move, h place]
  | group d content opened closed =>
    have ih := flattenAll_plainAll h content
    cases d <;> simp [plain, flatten, Delimiter.marks?, HostToken.move, ih, h opened, h closed]

/-- Spacing does not show in tokens, and places show as positions. -/
theorem flattenAll_plainAll (h : ∀ place, f (s.offsetBy place) = s'.offsetBy (g place))
    (ts : List Tree) :
    flattenAll s' (plainAll g ts) = (flattenAll s ts).map (HostToken.move f) := by
  cases ts with
  | nil => rfl
  | cons t ts =>
    rw [plainAll, flattenAll, flattenAll, List.map_append, flatten_plain h, flattenAll_plainAll h]

end

/-- Trees whose places keep their positions keep their tokens. -/
theorem flattenAll_plainAll_of_eq (h : ∀ place, s.offsetBy place = s.offsetBy (g place))
    (ts : List Tree) : flattenAll s (plainAll g ts) = flattenAll s ts :=
  (flattenAll_plainAll (f := id) h ts).trans (List.map_id _)

/-- The tokens of trees are moved one by one. -/
theorem flattenAll_move (h : Position.Carries f s s') (ts : List Tree) :
    flattenAll s' ts = (flattenAll s ts).map (HostToken.move f) := by
  have hsame : flattenAll s' (plainAll id ts) = flattenAll s' ts :=
    flattenAll_plainAll_of_eq (fun _ => rfl) ts
  rw [← hsame]
  exact flattenAll_plainAll h ts

end Tree

variable (h : Position.Carries f s s')

include h

theorem Statement.form?_move (statement : Statement) :
    statement.form? s' = (statement.form? s).map (HostForm.move f) := by
  unfold Statement.form?
  cases statement.kind with
  | none => rfl
  | some kind => simp [HostForm.move, h _]

/-- Which forms there are, or which fault, has nothing to do with where the snippet begins. -/
theorem formsOf_move (trees : List Tree) :
    formsOf trees s' = (formsOf trees s).map (List.map (HostForm.move f)) := by
  unfold formsOf
  cases statementsOf trees with
  | error fault => rfl
  | ok statements =>
    refine congrArg Except.ok ?_
    rw [List.map_filterMap]
    exact List.filterMap_congr fun statement _ => Statement.form?_move h statement

theorem parse_move (code : String) :
    parse code s' =
      match parse code s with
      | .ok parsed => .ok (parsed.move f)
      | .error e => .error (e.move f) := by
  unfold parse
  dsimp only
  -- The source is cut into trees before anything is placed.
  cases Tree.read code.toList with
  | error place => simp [HostError.move, h place]
  | ok trees =>
    have hmoved := formsOf_move h trees
    cases hforms : formsOf trees s with
    | error fault =>
      rw [hforms] at hmoved
      simp [hmoved, hforms, HostError.move, Except.map, h fault.place]
    | ok forms =>
      rw [hforms] at hmoved
      simp [hmoved, hforms, ParsedCode.move, Except.map, ← Tree.flattenAll_move h, h.endPosition]

theorem scan_move (source : List Char) :
    Comments.scan source s' = (Comments.scan source s).map (Comment.move f) := by
  unfold Comments.scan
  rw [List.map_filterMap]
  refine List.filterMap_congr fun l _ => ?_
  simp [Option.map_map, Function.comp_def, Comment.move, h _]

end Host

/-! ## Front ends for words -/

namespace Words

variable (h : Position.Carries f s s')

include h

theorem tokens_move (source : List Char) :
    tokens source s' = (tokens source s).map (HostToken.move f) := by
  unfold tokens
  rw [List.map_map]
  exact List.map_congr_left fun w _ => by simp [HostToken.move, h _]

theorem forms_move (source : List Char) :
    forms source s' = (forms source s).map (HostForm.move f) := by
  unfold forms
  split
  · rfl
  · simp [HostForm.move, h.start]

theorem parse_move (rejections : List Rejection) (code : String) :
    parse rejections code s' =
      match parse rejections code s with
      | .ok parsed => .ok (parsed.move f)
      | .error e => .error (e.move f) := by
  unfold parse
  cases rejection? rejections code with
  | some r =>
    cases hkind : r.isLexical with
    | true => simp [Rejection.fault, hkind, HostError.move, h.start]
    | false => simp [Rejection.fault, hkind, HostError.move, h.start]
  | none => simp only [ParsedCode.move, ← tokens_move h, ← forms_move h, h.endPosition]

theorem commentsFrom_move (place : Place) (cs : List Char) :
    commentsFrom s' place cs = (commentsFrom s place cs).map (Comment.move f) := by
  induction cs generalizing place with
  | nil => rfl
  | cons c cs ih =>
    unfold commentsFrom
    dsimp only
    rw [ih]
    split
    · simp [Comment.move, h place]
    · rfl

end Words

end Carries

/-- **The default front end** computes positions from where the snippet begins and in no other
way. -/
theorem Host.frontEnd_follows : Host.frontEnd.Follows where
  parse h code := Host.parse_move h code
  comments h code := Host.scan_move h code.toList

/-- **So does every front end for words.** -/
theorem Words.frontEnd_follows (rejections : List Words.Rejection) :
    (Words.frontEnd rejections).Follows where
  parse h code := Words.parse_move h rejections code
  comments h code := Words.commentsFrom_move h .origin code.toList

end PegCheck
