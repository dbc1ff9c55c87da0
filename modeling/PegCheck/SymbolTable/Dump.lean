import PegCheck.SymbolTable.Basic
import PegCheck.Text.Blank

/-!
# Symbol tables in print

`SymbolTable.dump` shows a table on lines of text: the rules with their positions and code, the
references with their occurrences, and the combinators.

Headlines:
* **`SymbolTable.dump`**: the lines, joined without a final newline.
-/

namespace PegCheck

namespace CodeBlock

/-- A code block at the end of its rule's line. -/
def dump (b : CodeBlock) : String :=
  if b.identity then " (identity)"
  else
    " \x7b " ++ String.ofList (Text.trim b.code.toList) ++ " \x7d" ++
      match b.annotations with
      | none => ""
      | some a =>
        " uses=[" ++ ",".intercalate a.usedArgs.toList ++ "]" ++
          if a.comments.isEmpty then "" else " comments=" ++ toString a.comments.length

end CodeBlock

namespace Rule

/-- The line of a rule. -/
def dump (r : Rule) : String :=
  "  " ++ r.name ++ " " ++ r.index.render ++ ((r.code.map CodeBlock.dump).getD "")

end Rule

namespace ReferenceGroup

/-- The line of a referenced name. -/
def dump (g : ReferenceGroup) : String :=
  "  " ++ g.name ++ String.join (g.occurrences.map fun p => " " ++ p.render)

end ReferenceGroup

namespace SymbolTable

/-- The lines of a table. -/
def dumpLines (t : SymbolTable) : List String :=
  "rules" :: t.rules.map Rule.dump
    ++ "references" :: t.references.map ReferenceGroup.dump
    ++ ["combinators" ++ String.join (t.combinators.toList.map fun c => " " ++ c.name)]

/-- A table in print. -/
def dump (t : SymbolTable) : String := "\n".intercalate t.dumpLines

end SymbolTable

end PegCheck
