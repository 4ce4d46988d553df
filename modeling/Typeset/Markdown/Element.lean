/-
Dropping the elements of an embedded program.

An element is what stands between a tag and the tag that closes it, the two
tags among it. Tags match, so both stand among the same phrases or blocks, and
counting the elements that are open there tells what belongs to one.
-/
import Typeset.Markdown.Tree

namespace Typeset.Markdown

/-- The number of open elements behind a tag, where `depth` are open in front of it. -/
def Tag.depthAfter (t : Tag) (depth : Nat) : Nat :=
  if t.closing then depth - 1 else if t.selfClosing then depth else depth + 1

/-- The number of open elements behind a tag or an expression. -/
def Phrase.depthAfter (depth : Nat) : Phrase → Nat
  | .program (some t) => t.depthAfter depth
  | _ => depth

mutual

/-- A phrase without the elements inside it. -/
def Phrase.prune : Phrase → Phrase
  | .emphasis span children => .emphasis span (Phrase.pruneAll 0 children)
  | .strong span children => .strong span (Phrase.pruneAll 0 children)
  | .strike children => .strike (Phrase.pruneAll 0 children)
  | .link url children => .link url (Phrase.pruneAll 0 children)
  | .linkReference identifier label children =>
    .linkReference identifier label (Phrase.pruneAll 0 children)
  | .text value => .text value
  | .code value => .code value
  | .math value => .math value
  | .hardBreak => .hardBreak
  | .image url alt => .image url alt
  | .imageReference identifier alt => .imageReference identifier alt
  | .footnoteReference identifier => .footnoteReference identifier
  | .html value => .html value
  | .program tag => .program tag

/-- The phrases outside all elements, where `depth` elements are open in front of them. -/
def Phrase.pruneAll (depth : Nat) : List Phrase → List Phrase
  | [] => []
  | p :: ps =>
    let rest := Phrase.pruneAll (p.depthAfter depth) ps
    if depth == 0 then p.prune :: rest else rest

end

/-- The number of open elements behind a block. -/
def Flow.depthAfter (depth : Nat) : Flow (List Phrase) → Nat
  | .program content => content.foldl Phrase.depthAfter depth
  | _ => depth

mutual

/-- A block without the elements inside it. -/
def Flow.prune : Flow (List Phrase) → Flow (List Phrase)
  | .heading depth underlined content => .heading depth underlined (Phrase.pruneAll 0 content)
  | .paragraph content => .paragraph (Phrase.pruneAll 0 content)
  | .footnoteDefinition identifier children =>
    .footnoteDefinition identifier (Flow.pruneAll 0 children)
  | .list delimiter items => .list delimiter (Flow.pruneItems items)
  | .quote children => .quote (Flow.pruneAll 0 children)
  | .table align rows => .table align (rows.map fun row => row.map (Phrase.pruneAll 0))
  | .yaml value => .yaml value
  | .toml value => .toml value
  | .definition identifier url => .definition identifier url
  | .code lang value => .code lang value
  | .thematicBreak => .thematicBreak
  | .math value => .math value
  | .html => .html
  | .program content => .program content
  | .hidden children => .hidden (Flow.pruneAll 0 children)

/-- The blocks outside all elements, where `depth` elements are open in front of them. -/
def Flow.pruneAll (depth : Nat) : List (Flow (List Phrase)) → List (Flow (List Phrase))
  | [] => []
  | b :: bs =>
    let rest := Flow.pruneAll (b.depthAfter depth) bs
    if depth == 0 then b.prune :: rest else rest

def Flow.pruneItems : List (List (Flow (List Phrase))) → List (List (Flow (List Phrase)))
  | [] => []
  | bs :: rest => Flow.pruneAll 0 bs :: Flow.pruneItems rest

end

end Typeset.Markdown
