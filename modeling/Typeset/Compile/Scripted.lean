/-
A stand-in compiler that takes its orders from the main document.

A document that begins with `panic:` makes it panic, one that begins with
`fail:` gives the diagnostics that follow, and any other becomes its own bytes
with the registered paths as diagnostics.
-/
import Typeset.Compile.Compiler
import Typeset.Text.Lines

namespace Typeset.Compile

/-- What follows an opening, if the text begins with it. -/
def afterOpening? (opening text : String) : Option String :=
  if opening.toList.isPrefixOf text.toList then
    some (String.ofList (text.toList.drop opening.length))
  else none

/-- The parts of a text between bars that are not empty. -/
def barred (text : String) : List String :=
  ((text.toList.splitOn '|').map String.ofList).filter (!·.isEmpty)

/-- The stand-in compiler. -/
def scripted : Engine := fun compiler path =>
  let main := (compiler.sources.get? path).getD ""
  if (afterOpening? "panic:" main).isSome then .panicked
  else match afterOpening? "fail:" main with
    | some diagnostics => .finished none (barred diagnostics)
    | none => .finished (some main.toUTF8.toList)
        ["sources=" ++ Text.joinWith "," compiler.sources.paths,
         "assets=" ++ Text.joinWith "," compiler.assets.paths]

theorem scripted_readsFiles : Engine.ReadsFiles scripted := fun c d path h => by
  unfold scripted
  rw [h]

end Typeset.Compile
