/-
The JSON form of a document tree.

A node is an object with its variant under `type` and its fields beside it.
The language of a code block and the label of a reference may be missing; they
are always written.
-/
import Typeset.Document
import Typeset.Json

namespace Typeset

namespace Align

def toJson : Align → Json
  | .left => .str "left"
  | .right => .str "right"
  | .center => .str "center"

def ofName? : String → Option Align
  | "left" => some .left
  | "right" => some .right
  | "center" => some .center
  | _ => none

/-- The alignment that a choice names. Its content, if it has any, is null or an empty object. -/
def ofJson? (j : Json) : Option Align :=
  match j.choice? with
  | some (name, .null) => ofName? name
  | some (name, .obj []) => ofName? name
  | _ => none

end Align

/-- A node with its variant and fields. -/
def Json.node (variant : String) (fields : List (String × Json)) : Json :=
  .obj (("type", .str variant) :: fields)

namespace Inline

mutual

/-- The JSON form of an inline. -/
def toJson : Inline → Json
  | .text value => .node "text" [("value", .str value)]
  | .strong children => .node "strong" [("children", .arr (toJsons children))]
  | .emphasis children => .node "emphasis" [("children", .arr (toJsons children))]
  | .strike children => .node "strike" [("children", .arr (toJsons children))]
  | .highlight children => .node "highlight" [("children", .arr (toJsons children))]
  | .subscript children => .node "subscript" [("children", .arr (toJsons children))]
  | .superscript children => .node "superscript" [("children", .arr (toJsons children))]
  | .inlineCode value => .node "inlineCode" [("value", .str value)]
  | .inlineMath value => .node "inlineMath" [("value", .str value)]
  | .link url children =>
    .node "link" [("url", .str url), ("children", .arr (toJsons children))]
  | .linkReference identifier label children =>
    .node "linkReference"
      [("identifier", .str identifier), ("label", .ofOption .str label),
       ("children", .arr (toJsons children))]
  | .footnoteReference identifier =>
    .node "footnoteReference" [("identifier", .str identifier)]
  | .image url alt => .node "image" [("url", .str url), ("alt", .str alt)]
  | .lineBreak => .node "lineBreak" []

def toJsons : List Inline → List Json
  | [] => []
  | i :: is => i.toJson :: toJsons is

end

/-- The variants of inlines. -/
def variants : Json.Variants :=
  [("text", ["value"]), ("strong", ["children"]), ("emphasis", ["children"]),
   ("strike", ["children"]), ("highlight", ["children"]), ("subscript", ["children"]),
   ("superscript", ["children"]), ("inlineCode", ["value"]), ("inlineMath", ["value"]),
   ("link", ["url", "children"]), ("linkReference", ["identifier", "label", "children"]),
   ("footnoteReference", ["identifier"]), ("image", ["url", "alt"]), ("lineBreak", [])]

mutual

/-- The inline that a JSON value stands for; `inside` tells that it is part of another node. -/
def ofJson? (inside : Bool) (j : Json) : Option Inline := do
  let v ← j.variant? "type" variants inside
  match v.tag with
  | "text" => return .text (← v.fields.string? "value")
  | "strong" => let ⟨cs, _⟩ ← v.fields.items? "children"; return .strong (← ofJsons? true cs)
  | "emphasis" => let ⟨cs, _⟩ ← v.fields.items? "children"; return .emphasis (← ofJsons? true cs)
  | "strike" => let ⟨cs, _⟩ ← v.fields.items? "children"; return .strike (← ofJsons? true cs)
  | "highlight" => let ⟨cs, _⟩ ← v.fields.items? "children"; return .highlight (← ofJsons? true cs)
  | "subscript" => let ⟨cs, _⟩ ← v.fields.items? "children"; return .subscript (← ofJsons? true cs)
  | "superscript" =>
    let ⟨cs, _⟩ ← v.fields.items? "children"
    return .superscript (← ofJsons? true cs)
  | "inlineCode" => return .inlineCode (← v.fields.string? "value")
  | "inlineMath" => return .inlineMath (← v.fields.string? "value")
  | "link" =>
    let url ← v.fields.string? "url"
    let ⟨cs, _⟩ ← v.fields.items? "children"
    return .link url (← ofJsons? true cs)
  | "linkReference" =>
    let identifier ← v.fields.string? "identifier"
    let label ← Json.optional? Json.string? (v.fields.get? "label")
    let ⟨cs, _⟩ ← v.fields.items? "children"
    return .linkReference identifier label (← ofJsons? true cs)
  | "footnoteReference" => return .footnoteReference (← v.fields.string? "identifier")
  | "image" =>
    return .image (← v.fields.string? "url") (← v.fields.string? "alt")
  | "lineBreak" => return .lineBreak
  | _ => none
termination_by sizeOf j

def ofJsons? (inside : Bool) (js : List Json) : Option (List Inline) := do
  match js with
  | [] => return []
  | j :: js => return (← ofJson? inside j) :: (← ofJsons? inside js)
termination_by sizeOf js

end

end Inline

namespace Block

mutual

/-- The JSON form of a block. -/
def toJson : Block → Json
  | .frontmatter value => .node "frontmatter" [("value", .str value)]
  | .linkDefinition identifier url =>
    .node "linkDefinition" [("identifier", .str identifier), ("url", .str url)]
  | .footnoteDefinition identifier children =>
    .node "footnoteDefinition"
      [("identifier", .str identifier), ("children", .arr (toJsons children))]
  | .heading depth children =>
    .node "heading" [("depth", .int depth.toNat), ("children", .arr (Inline.toJsons children))]
  | .paragraph children => .node "paragraph" [("children", .arr (Inline.toJsons children))]
  | .list ordered items =>
    .node "list" [("ordered", .bool ordered), ("items", .arr (itemsToJsons items))]
  | .codeBlock lang value =>
    .node "codeBlock" [("lang", .ofOption .str lang), ("value", .str value)]
  | .blockquote children => .node "blockquote" [("children", .arr (toJsons children))]
  | .thematicBreak => .node "thematicBreak" []
  | .table align rows =>
    .node "table"
      [("align", .arr (align.map (Json.ofOption Align.toJson))),
       ("rows", .arr (rows.map fun row =>
         .arr (row.map fun cell => .arr (Inline.toJsons cell))))]
  | .mathBlock value => .node "mathBlock" [("value", .str value)]

def toJsons : List Block → List Json
  | [] => []
  | b :: bs => b.toJson :: toJsons bs

/-- The JSON form of list items. -/
def itemsToJsons : List (List Block) → List Json
  | [] => []
  | bs :: rest => .obj [("children", .arr (toJsons bs))] :: itemsToJsons rest

end

/-- The variants of blocks. -/
def variants : Json.Variants :=
  [("frontmatter", ["value"]), ("linkDefinition", ["identifier", "url"]),
   ("footnoteDefinition", ["identifier", "children"]), ("heading", ["depth", "children"]),
   ("paragraph", ["children"]), ("list", ["ordered", "items"]), ("codeBlock", ["lang", "value"]),
   ("blockquote", ["children"]), ("thematicBreak", []), ("table", ["align", "rows"]),
   ("mathBlock", ["value"])]

/-- The inlines of a block, from an array. -/
def inlines? (j : Json) : Option (List Inline) :=
  match j with
  | .arr items => Inline.ofJsons? true items
  | _ => none

mutual

/-- The block that a JSON value stands for; `inside` tells that it is part of another node. -/
def ofJson? (inside : Bool) (j : Json) : Option Block := do
  let v ← j.variant? "type" variants inside
  match v.tag with
  | "frontmatter" => return .frontmatter (← v.fields.string? "value")
  | "linkDefinition" =>
    return .linkDefinition (← v.fields.string? "identifier") (← v.fields.string? "url")
  | "footnoteDefinition" =>
    let identifier ← v.fields.string? "identifier"
    let ⟨cs, _⟩ ← v.fields.items? "children"
    return .footnoteDefinition identifier (← ofJsons? true cs)
  | "heading" =>
    let depth ← v.fields.read? "depth" Json.byte?
    return .heading depth (← v.fields.read? "children" inlines?)
  | "paragraph" => return .paragraph (← v.fields.read? "children" inlines?)
  | "list" =>
    let ordered ← v.fields.read? "ordered" Json.bool?
    let ⟨items, _⟩ ← v.fields.items? "items"
    return .list ordered (← itemsOfJsons? items)
  | "codeBlock" =>
    return .codeBlock (← Json.optional? Json.string? (v.fields.get? "lang"))
      (← v.fields.string? "value")
  | "blockquote" =>
    let ⟨cs, _⟩ ← v.fields.items? "children"
    return .blockquote (← ofJsons? true cs)
  | "thematicBreak" => return .thematicBreak
  | "table" =>
    let align ← v.fields.read? "align"
      (Json.listOf? fun j => Json.optional? Align.ofJson? (some j))
    let rows ← v.fields.read? "rows" (Json.listOf? (Json.listOf? inlines?))
    return .table align rows
  | "mathBlock" => return .mathBlock (← v.fields.string? "value")
  | _ => none
termination_by sizeOf j

def ofJsons? (inside : Bool) (js : List Json) : Option (List Block) := do
  match js with
  | [] => return []
  | j :: js => return (← ofJson? inside j) :: (← ofJsons? inside js)
termination_by sizeOf js

/-- The list item that a JSON value stands for, a record of its blocks. -/
def itemOfJson? (j : Json) : Option (List Block) := do
  let fs ← j.record? ["children"]
  let ⟨cs, _⟩ ← fs.items? "children"
  ofJsons? true cs
termination_by sizeOf j

def itemsOfJsons? (js : List Json) : Option (List (List Block)) := do
  match js with
  | [] => return []
  | j :: js => return (← itemOfJson? j) :: (← itemsOfJsons? js)
termination_by sizeOf js

end

end Block

namespace Document

def toJson (d : Document) : Json := .obj [("children", .arr (Block.toJsons d.children))]

def ofJson? (j : Json) : Option Document := do
  let fs ← j.record? ["children"]
  let ⟨cs, _⟩ ← fs.items? "children"
  return ⟨← Block.ofJsons? false cs⟩

/-- Whether two documents are the same. -/
def same (a b : Document) : Bool := a.toJson.same b.toJson

end Document

end Typeset
