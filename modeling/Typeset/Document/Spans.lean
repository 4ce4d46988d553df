/-
Superscript and subscript spans inside text leaves.

A span is a caret or a tilde, one or more characters on the same line, and the
same character again. The leftmost span wins, the shortest from its start, and
spans do not overlap. Cutting runs once over a document: what it makes is not
read again, and neither is anything below a superscript or subscript. A run of
inlines that holds neither a mark nor a container is not gone through at all.
-/
import Typeset.Document

namespace Typeset

namespace Spans

/-- The character that opens and closes a span. -/
def isDelimiter (c : Char) : Bool := c == '^' || c == '~'

/-- Whether a text holds a character that may open a span. -/
def isMarked (value : String) : Bool := value.toList.any isDelimiter

/-- A character that no span holds. -/
def endsLine (c : Char) : Bool := c == '\n' || c == '\r'

/-- The content up to the next `d` on the line, and what follows that. -/
def upTo (d : Char) : List Char → Option (List Char × List Char)
  | [] => none
  | c :: cs =>
    if c == d then some ([], cs)
    else if endsLine c then none
    else (upTo d cs).map fun (content, rest) => (c :: content, rest)

/-- The content of the span that `d` opens, and what follows the span. Its first character may be
`d` itself. -/
def content? (d : Char) : List Char → Option (List Char × List Char)
  | [] => none
  | c :: cs =>
    if endsLine c then none
    else (upTo d cs).map fun (content, rest) => (c :: content, rest)

theorem length_upTo {d : Char} {cs content rest : List Char}
    (h : upTo d cs = some (content, rest)) : content.length + rest.length < cs.length := by
  induction cs generalizing content with
  | nil => simp [upTo] at h
  | cons c cs ih =>
    unfold upTo at h
    split at h
    · simp at h; obtain ⟨rfl, rfl⟩ := h; simp
    · split at h
      · simp at h
      · simp only [Option.map_eq_some_iff, Prod.exists, Prod.mk.injEq] at h
        obtain ⟨a, b, hab, rfl, rfl⟩ := h
        have := ih hab
        simp; omega

theorem length_content? {d : Char} {cs content rest : List Char}
    (h : content? d cs = some (content, rest)) : content.length + rest.length < cs.length := by
  cases cs with
  | nil => simp [content?] at h
  | cons c cs =>
    simp only [content?] at h
    split at h
    · simp at h
    · simp only [Option.map_eq_some_iff, Prod.exists, Prod.mk.injEq] at h
      obtain ⟨a, b, hab, rfl, rfl⟩ := h
      have := length_upTo hab
      simp; omega

/-- A text leaf for plain characters in reverse order, if there are any. -/
def plain (reversed : List Char) : List Inline :=
  if reversed.isEmpty then [] else [.text (String.ofList reversed.reverse)]

/-- The node of a span. -/
def node (d : Char) (content : List Char) : Inline :=
  if d == '^' then .superscript [.text (String.ofList content)]
  else .subscript [.text (String.ofList content)]

/-- Cuts the second list; the first one holds the plain characters before it, last one first. -/
def cutFrom (reversed : List Char) : List Char → List Inline
  | [] => plain reversed
  | c :: cs =>
    if isDelimiter c then
      match _h : content? c cs with
      | some (content, rest) => plain reversed ++ node c content :: cutFrom [] rest
      | none => cutFrom (c :: reversed) cs
    else cutFrom (c :: reversed) cs
termination_by cs => cs.length
decreasing_by
  · have := length_content? _h
    simp; omega
  · simp
  · simp

end Spans

/-- The text and span nodes of a text value. -/
def splitText (value : String) : List Inline := Spans.cutFrom [] value.toList

/-- Whether cutting may change an inline: a text with a mark, or a container that is no span. -/
def Inline.needsVisit : Inline → Bool
  | .text value => Spans.isMarked value
  | .superscript _ => false
  | .subscript _ => false
  | i => i.children?.isSome

mutual

/-- An inline with the text leaves below it cut. A text leaf becomes several nodes. -/
def Inline.splitSpans : Inline → List Inline
  | .text value => if Spans.isMarked value then splitText value else [.text value]
  | .strong children => [.strong (Inline.splitAll children)]
  | .emphasis children => [.emphasis (Inline.splitAll children)]
  | .strike children => [.strike (Inline.splitAll children)]
  | .highlight children => [.highlight (Inline.splitAll children)]
  | .link url children => [.link url (Inline.splitAll children)]
  | .linkReference identifier label children =>
    [.linkReference identifier label (Inline.splitAll children)]
  | .subscript children => [.subscript children]
  | .superscript children => [.superscript children]
  | .inlineCode value => [.inlineCode value]
  | .inlineMath value => [.inlineMath value]
  | .footnoteReference identifier => [.footnoteReference identifier]
  | .image url alt => [.image url alt]
  | .lineBreak => [.lineBreak]

/-- A run of inlines, each of them cut, unless none needs a visit. -/
def Inline.splitAll : List Inline → List Inline
  | [] => []
  | i :: is =>
    if (i :: is).any Inline.needsVisit then i.splitSpans ++ Inline.splitEach is else i :: is

/-- A run of inlines, each of them cut. -/
def Inline.splitEach : List Inline → List Inline
  | [] => []
  | i :: is => i.splitSpans ++ Inline.splitEach is

end

mutual

/-- A block with every text leaf of its headings, paragraphs and cells cut. -/
def Block.splitSpans : Block → Block
  | .heading depth children => .heading depth (Inline.splitAll children)
  | .paragraph children => .paragraph (Inline.splitAll children)
  | .footnoteDefinition identifier children =>
    .footnoteDefinition identifier (Block.splitAll children)
  | .blockquote children => .blockquote (Block.splitAll children)
  | .list ordered items => .list ordered (Block.splitItems items)
  | .table align rows => .table align (rows.map fun row => row.map Inline.splitAll)
  | .frontmatter value => .frontmatter value
  | .linkDefinition identifier url => .linkDefinition identifier url
  | .codeBlock lang value => .codeBlock lang value
  | .thematicBreak => .thematicBreak
  | .mathBlock value => .mathBlock value

def Block.splitAll : List Block → List Block
  | [] => []
  | b :: bs => b.splitSpans :: Block.splitAll bs

def Block.splitItems : List (List Block) → List (List Block)
  | [] => []
  | bs :: rest => Block.splitAll bs :: Block.splitItems rest

end

/-- The document with every text leaf cut at its spans. -/
def Document.splitSpans (d : Document) : Document := ⟨Block.splitAll d.children⟩

end Typeset
