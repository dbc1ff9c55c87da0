import PegCheck.Host.Phrase.Expected

/-!
# Reading token trees

A reader uses up trees from the left and writes the trees of the phrase it has read: mostly the same
trees, with the spacing of their marks made uniform. It stops at the first fault. Content that a
reader leaves unused at the end of a group is a fault as well, but one that counts only when there
is no other.

Headlines:
* **`Reader.expect`**, **`Reader.accept`**, **`Reader.refuse`**: the only ways to look at a tree.
* **`Reader.inside`**: reads the content of a group; **`Reader.enclosed`** leaves it open when its
  unused content is taken notice of.
* **`Reader.keeping`**: replaces what a reader has written by the trees it has used up.
* **`Reader.iterate`**: repeats a step; each repetition uses up a tree, so the number of trees
  bounds the repetitions.
-/

namespace PegCheck.Host

/-- The trees ahead, the trees written so far with the last one first, the place at which the
enclosing group ends, and the first fault of unused content. -/
structure ReaderState where
  rest : List Tree
  written : List Tree
  finish : Place
  leftover : Option Fault

/-- A reader of token trees. -/
abbrev Reader := StateT ReaderState (Except Fault)

/-- The expectation of a mark. -/
abbrev mark (text : String) : Expected := .mark text

/-- The expectation of a word. -/
abbrev word (text : String) : Expected := .word text

namespace Reader

variable {α : Type}

/-! ## Looking ahead -/

/-- The trees ahead. -/
def ahead : Reader (List Tree) := do return (← get).rest

/-- Is nothing ahead? -/
def atEnd : Reader Bool := do return (← ahead).isEmpty

/-- Is the expectation met here? -/
def sees (e : Expected) : Reader Bool := do return e.stands (← ahead)

/-- Is the expectation met after the next tree? -/
def seesSecond (e : Expected) : Reader Bool := do return e.stands (skipTree (← ahead))

/-- Is the expectation met after the next two trees? -/
def seesThird (e : Expected) : Reader Bool := do return e.stands (skipTree (skipTree (← ahead)))

/-- Is one of the expectations met here? -/
def seesAny (es : List Expected) : Reader Bool := do
  let trees ← ahead
  return es.any (·.stands trees)

/-- Is the first expectation met here and the second one not? -/
def seesBut (e excluded : Expected) : Reader Bool := do
  let trees ← ahead
  return e.stands trees && !excluded.stands trees

/-- Is a single dot ahead, and not the dots of a range? -/
def seesDot : Reader Bool := seesBut (mark ".") (mark "..")

/-- Is a group of a visible delimiter ahead? -/
def seesGroup : Reader Bool := seesAny [.group .parenthesis, .group .bracket, .group .brace]

/-! ## Faults -/

/-- Complains about a place. -/
def failAt (place : Place) (c : Complaint) : Reader α := throw ⟨c, false, place⟩

/-- The place of the next tree, or the end of the group. -/
def place : Reader Place := do
  let s ← get
  return (s.rest.head?.map Tree.place).getD s.finish

/-- Complains about what is ahead. -/
def fail (c : Complaint) : Reader α := do throw ⟨c, ← atEnd, ← place⟩

/-- Complains that none of the expectations is met; those that are met were not looked for. -/
def refuse (es : List Expected) : Reader α := do
  let trees ← ahead
  fail (.alternatives (es.filter fun e => !e.stands trees))

/-! ## Using up trees -/

/-- Writes trees. -/
def write (trees : List Tree) : Reader Unit :=
  modify fun s => { s with written := trees.reverse ++ s.written }

/-- Uses up and writes what meets the expectation, if it is met. -/
def accept (e : Expected) : Reader Bool := do
  match e.split? (← ahead) with
  | some (taken, rest) =>
    modify fun s => { s with rest := rest }
    write taken
    return true
  | none => return false

/-- Uses up and writes what meets the expectation, if it is met and allowed. -/
def acceptIf (allowed : Bool) (e : Expected) : Reader Bool :=
  if allowed then accept e else return false

/-- Uses up and writes what meets the first of the expectations that is met, if one is. -/
def acceptAny : List Expected → Reader Bool
  | [] => return false
  | e :: es => do
    if ← accept e then return true
    acceptAny es

/-- The complaint that an expectation is not met. The end of a group is not mentioned for a mark,
and a keyword in the place of an identifier is named. -/
def missing (e : Expected) : Reader α := do
  match e, ← ahead with
  | .mark _, _ => failAt (← place) (.alternatives [e])
  | .ident, .ident text _ :: _ => fail (.keyword text)
  | _, _ => fail (.alternatives [e])

/-- Uses up and writes what meets the expectation, or complains. -/
def expect (e : Expected) : Reader Unit := do
  unless ← accept e do missing e

/-- Uses up and writes what meets the expectation, if it is met. -/
def allow (e : Expected) : Reader Unit := discard (accept e)

/-- Uses up what meets the expectation without writing it, if it is met. -/
def drop (e : Expected) : Reader Bool := do
  match e.split? (← ahead) with
  | some (_, rest) =>
    modify fun s => { s with rest := rest }
    return true
  | none => return false

/-- Uses up and writes a whole group of a visible delimiter as it stands, and says whether it is one
of braces. -/
def wholeGroup : Reader Bool := do
  if ← accept (.group .brace) then return true
  unless ← accept (.group .parenthesis) do
    unless ← accept (.group .bracket) do fail .macroDelimiter
  return false

/-! ## Readers of readers -/

/-- Reads the content of a group. The second answer is the fault of what is left of it unused. -/
def enclosed (d : Delimiter) (r : Reader α) : Reader (α × Option Fault) := fun s =>
  match s.rest with
  | .group d' content opened closed :: rest =>
    if d = d' then do
      let (a, t) ← r ⟨content, [], closed, s.leftover⟩
      let unused := t.rest.head?.map fun tree => ⟨.unusedContent d, false, tree.place⟩
      let group := Tree.group d t.written.reverse opened closed
      return ((a, unused), { s with
        rest := rest
        written := group :: s.written
        leftover := t.leftover })
    else missing (.group d) s
  | _ => missing (.group d) s

/-- Takes notice of a fault of unused content, unless there is one already. -/
def leave (unused : Option Fault) : Reader Unit :=
  modify fun s => { s with leftover := s.leftover <|> unused }

/-- Reads the content of a group. -/
def inside (d : Delimiter) (r : Reader α) : Reader α := do
  let (a, unused) ← enclosed d r
  leave unused
  return a

/-- The answer of a reader, and what it writes without its being written. -/
def captured (r : Reader α) : Reader (α × List Tree) := fun s => do
  let (a, t) ← r { s with written := [] }
  return ((a, t.written.reverse), { t with written := s.written })

/-- Runs a reader whose answer says whether the trees it uses up are to be written as they stand, in
place of what it writes. -/
def keeping (r : Reader (α × Bool)) : Reader α := do
  let before ← ahead
  let ((a, kept), trees) ← captured r
  let after ← ahead
  write (if kept then before.take (before.length - after.length) else trees)
  return a

/-- Runs a reader and writes the trees it uses up as they stand. -/
def asWritten (r : Reader α) : Reader α := keeping (do return (← r, true))

/-- The answer of a reader, or nothing and no change if it finds a fault. -/
def attempt (r : Reader α) : Reader (Option α) := fun s =>
  match r s with
  | .ok (a, t) => .ok (some a, t)
  | .error _ => .ok (none, s)

/-- Would the reader find no fault, and what would be its answer? -/
def preview (r : Reader α) : Reader (Option α) := fun s =>
  match r s with
  | .ok (a, _) => .ok (some a, s)
  | .error _ => .ok (none, s)

/-- Repeats a step as long as it gives a value to go on with, at most once for each of the trees and
once more at their end. -/
def repeatFor (trees : List Tree) (step : α → Reader (Option α)) (a : α) : Reader α :=
  match trees with
  | [] => return (← step a).getD a
  | _ :: trees => do
    match ← step a with
    | some a => repeatFor trees step a
    | none => return a

/-- Repeats a step as long as it gives a value to go on with. The answer is the last such value. -/
def iterate (step : α → Reader (Option α)) (a : α) : Reader α := do repeatFor (← ahead) step a

/-- Repeats a reader as long as it answers yes. -/
def repeatWhile (r : Reader Bool) : Reader Unit :=
  iterate (fun _ => do return if ← r then some () else none) ()

/-- Reads elements up to the end of the group, with no separator. -/
def untilEnd (element : Reader Unit) : Reader Unit := repeatWhile do
  if ← atEnd then return false
  element
  return true

/-- Reads elements up to a stop. A separator has to follow each of them, except before the stop. -/
def separatedUntil (stop : Reader Bool) (separator : Expected) (element : Reader Unit) :
    Reader Unit :=
  repeatWhile do
    if ← stop then return false
    element
    if ← stop then return false
    expect separator
    return true

/-- Reads elements up to a stop, and no further than to the first that has no separator after it. -/
def separatedWhile (stop : Reader Bool) (separator : Expected) (element : Reader Unit) :
    Reader Unit :=
  repeatWhile do
    if ← stop then return false
    element
    accept separator

/-- Reads elements with commas between them up to the end of the group. -/
def commaSeparated (element : Reader Unit) : Reader Unit := separatedUntil atEnd (mark ",") element

end Reader

end PegCheck.Host
