/-
Cutting loses nothing.

Written out, a superscript or subscript is its content between two carets or
tildes again, and texts that meet are one text. A document and what it is cut
into are the same when they are written out, and cutting touches nothing but
the text leaves that it puts the pieces of in their place.
-/
import Typeset.Proofs.Spans.Traversal

namespace Typeset

namespace Inline

/-- An inline in front of a run, merged with the text that stands first there if it is a text. -/
def glue : Inline → List Inline → List Inline
  | .text a, .text b :: is => .text (a ++ b) :: is
  | i, is => i :: is

/-- A run with the texts that meet merged. -/
def merge (is : List Inline) : List Inline := is.foldr glue []

mutual

/-- An inline with its superscripts and subscripts as text: the content between the delimiters. -/
def writeOut : Inline → List Inline
  | .superscript children => .text "^" :: (writeEach children ++ [.text "^"])
  | .subscript children => .text "~" :: (writeEach children ++ [.text "~"])
  | .strong children => [.strong (merge (writeEach children))]
  | .emphasis children => [.emphasis (merge (writeEach children))]
  | .strike children => [.strike (merge (writeEach children))]
  | .highlight children => [.highlight (merge (writeEach children))]
  | .link url children => [.link url (merge (writeEach children))]
  | .linkReference identifier label children =>
    [.linkReference identifier label (merge (writeEach children))]
  | .text value => [.text value]
  | .inlineCode value => [.inlineCode value]
  | .inlineMath value => [.inlineMath value]
  | .footnoteReference identifier => [.footnoteReference identifier]
  | .image url alt => [.image url alt]
  | .lineBreak => [.lineBreak]

def writeEach : List Inline → List Inline
  | [] => []
  | i :: is => i.writeOut ++ writeEach is

end

/-- A run with its superscripts and subscripts as text. -/
def writeAll (is : List Inline) : List Inline := merge (writeEach is)

end Inline

namespace Block

mutual

/-- A block with its superscripts and subscripts as text. -/
def writeOut : Block → Block
  | .heading depth children => .heading depth (Inline.writeAll children)
  | .paragraph children => .paragraph (Inline.writeAll children)
  | .footnoteDefinition identifier children => .footnoteDefinition identifier (writeAll children)
  | .blockquote children => .blockquote (writeAll children)
  | .list ordered items => .list ordered (writeItems items)
  | .table align rows => .table align (rows.map fun row => row.map Inline.writeAll)
  | .frontmatter value => .frontmatter value
  | .linkDefinition identifier url => .linkDefinition identifier url
  | .codeBlock lang value => .codeBlock lang value
  | .thematicBreak => .thematicBreak
  | .mathBlock value => .mathBlock value

def writeAll : List Block → List Block
  | [] => []
  | b :: bs => b.writeOut :: writeAll bs

def writeItems : List (List Block) → List (List Block)
  | [] => []
  | item :: items => writeAll item :: writeItems items

end

end Block

/-- A document with its superscripts and subscripts as text. -/
def Document.writeOut (d : Document) : Document := ⟨Block.writeAll d.children⟩

/-! ## Texts that meet -/

namespace Inline

theorem glue_glue (a b : String) (is : List Inline) :
    glue (.text a) (glue (.text b) is) = glue (.text (a ++ b)) is := by
  cases is with
  | nil => rfl
  | cons i is => cases i <;> simp [glue, String.append_assoc]

theorem writeEach_append (is js : List Inline) :
    writeEach (is ++ js) = writeEach is ++ writeEach js := by
  induction is with
  | nil => rfl
  | cons i is ih => simp [writeEach, ih]

theorem glue_empty (b : String) (is : List Inline) :
    glue (.text "") (glue (.text b) is) = glue (.text b) is := by
  rw [glue_glue, String.empty_append]

/-- Behind a text, a run written out is more of that text: its texts make up `value`. -/
def Spells (is : List Inline) (value : String) : Prop :=
  ∀ a rest, glue (.text a) ((writeEach is).foldr glue rest) = glue (.text (a ++ value)) rest

theorem Spells.nil : Spells [] "" := by
  intro a rest
  rw [writeEach, List.foldr_nil, String.append_empty]

theorem Spells.cons {i : Inline} {is : List Inline} {v w : String} (hi : Spells [i] v)
    (his : Spells is w) : Spells (i :: is) (v ++ w) := by
  intro a rest
  have h := hi a ((writeEach is).foldr glue rest)
  rw [writeEach, writeEach, List.append_nil] at h
  rw [writeEach, List.foldr_append, h, his, String.append_assoc]

theorem spells_text (value : String) : Spells [.text value] value := by
  intro a rest
  simp [writeEach, writeOut, glue_glue]

end Inline

namespace Spans

open Inline (Spells)

theorem spells_node {d : Char} (hd : isDelimiter d = true) (content : List Char) :
    Spells [node d content]
      (String.singleton d ++ (String.ofList content ++ String.singleton d)) := by
  intro a rest
  rcases isDelimiter_iff.1 hd with rfl | rfl <;>
    simp [node, Inline.writeEach, Inline.writeOut, Inline.glue_glue]

theorem spells_plain (reversed : List Char) {is : List Inline} {value : String}
    (h : Spells is value) :
    Spells (plain reversed ++ is) (String.ofList reversed.reverse ++ value) := by
  unfold plain
  split
  · simp_all
  · exact (Inline.spells_text _).cons h

/-- The pieces of a text, written out, are the text. -/
theorem spells_cutFrom (reversed cs : List Char) :
    Spells (cutFrom reversed cs) (String.ofList (reversed.reverse ++ cs)) := by
  fun_induction cutFrom reversed cs with
  | case1 reversed => simpa using spells_plain reversed .nil
  | case2 reversed c cs hc content rest hcr ih =>
    obtain ⟨rfl, -, -⟩ := content?_eq_some hcr
    have he : String.ofList (reversed.reverse ++ c :: (content ++ c :: rest)) =
        String.ofList reversed.reverse ++
          (String.singleton c ++ (String.ofList content ++ String.singleton c)
            ++ String.ofList ([].reverse ++ rest)) :=
      String.toList_inj.1 (by simp)
    rw [he]
    exact spells_plain reversed ((spells_node hc content).cons ih)
  | case3 reversed c cs hc hn ih => simpa using ih
  | case4 reversed c cs hc ih => simpa using ih

theorem spells_splitText (value : String) : Spells (splitText value) value := by
  simpa [splitText] using spells_cutFrom [] value.toList

/-- The pieces of a text that is not empty begin with a text when they are written out. -/
theorem writeEach_splitText {value : String} (hne : value ≠ "") :
    ∃ v is, Inline.writeEach (splitText value) = .text v :: is := by
  cases hi : splitText value with
  | nil =>
    have h := spells_splitText value "" []
    rw [hi] at h
    simp [Inline.writeEach, Inline.glue] at h
    exact absurd h.symm hne.symm
  | cons i is =>
    have hm : i ∈ splitText value := by simp [hi]
    rcases mem_splitText hm with ⟨piece, rfl, -⟩ | ⟨d, content, rfl, -⟩
    · exact ⟨piece, _, rfl⟩
    · unfold node
      split <;> exact ⟨_, _, rfl⟩

/-- The pieces of a text that is not empty merge to the text, whatever stands behind them. -/
theorem foldr_splitText {value : String} (hne : value ≠ "") (rest : List Inline) :
    (Inline.writeEach (splitText value)).foldr Inline.glue rest =
      Inline.glue (.text value) rest := by
  obtain ⟨v, is, he⟩ := writeEach_splitText hne
  have h := spells_splitText value "" rest
  rw [String.empty_append] at h
  rw [← h, he, List.foldr_cons, Inline.glue_empty]

end Spans

/-! ## Documents -/

section

variable {f : String → List Inline}

/-- `f` puts nodes in the place of a text that merge to the text again. -/
def Inline.Restores (f : String → List Inline) : Prop :=
  ∀ value, value ≠ "" → ∀ rest, (writeEach (f value)).foldr glue rest = glue (.text value) rest

mutual

theorem Inline.foldr_writeEach_replaceTexts (hf : Restores f) : ∀ (i : Inline) (rest : List Inline),
    (writeEach (i.replaceTexts f)).foldr glue rest = (writeOut i).foldr glue rest
  | .text value, rest => by
    rw [replaceTexts]
    split
    · simp [writeEach]
    · rename_i hne
      rw [hf value hne]
      rfl
  | .strong children, rest | .emphasis children, rest | .strike children, rest
  | .highlight children, rest | .link _ children, rest | .linkReference _ _ children, rest => by
    simp only [replaceTexts, writeEach, writeOut, List.append_nil]
    rw [merge, Inline.foldr_writeEach_replaceAll hf children, merge]
  | .subscript _, rest | .superscript _, rest | .inlineCode _, rest | .inlineMath _, rest
  | .footnoteReference _, rest | .image _ _, rest | .lineBreak, rest => by
    rw [replaceTexts, writeEach, writeEach, List.append_nil]

theorem Inline.foldr_writeEach_replaceAll (hf : Restores f) :
    ∀ (is : List Inline) (rest : List Inline),
      (writeEach (replaceAll f is)).foldr glue rest = (writeEach is).foldr glue rest
  | [], rest => rfl
  | i :: is, rest => by
    rw [replaceAll, writeEach_append, List.foldr_append, Inline.foldr_writeEach_replaceAll hf is,
      Inline.foldr_writeEach_replaceTexts hf i, writeEach, List.foldr_append]

end

theorem Inline.writeAll_replaceAll (hf : Restores f) (is : List Inline) :
    writeAll (replaceAll f is) = writeAll is :=
  Inline.foldr_writeEach_replaceAll hf is []

mutual

theorem Block.writeOut_replaceTexts (hf : Inline.Restores f) :
    ∀ b : Block, (b.replaceTexts f).writeOut = b.writeOut
  | .heading _ _ | .paragraph _ => by
    rw [replaceTexts, writeOut, writeOut, Inline.writeAll_replaceAll hf]
  | .footnoteDefinition _ children | .blockquote children => by
    rw [replaceTexts, writeOut, writeOut, Block.writeAll_replaceAll hf children]
  | .list _ items => by
    rw [replaceTexts, writeOut, writeOut, Block.writeItems_replaceItems hf items]
  | .table _ _ => by
    simp [replaceTexts, writeOut, Function.comp_def, Inline.writeAll_replaceAll hf]
  | .frontmatter _ | .linkDefinition _ _ | .codeBlock _ _ | .thematicBreak | .mathBlock _ => by
    rw [replaceTexts]

theorem Block.writeAll_replaceAll (hf : Inline.Restores f) :
    ∀ bs : List Block, writeAll (replaceAll f bs) = writeAll bs
  | [] => rfl
  | b :: bs => by
    rw [replaceAll, writeAll, writeAll, Block.writeOut_replaceTexts hf b,
      Block.writeAll_replaceAll hf bs]

theorem Block.writeItems_replaceItems (hf : Inline.Restores f) :
    ∀ items : List (List Block), writeItems (replaceItems f items) = writeItems items
  | [] => rfl
  | item :: items => by
    rw [replaceItems, writeItems, writeItems, Block.writeAll_replaceAll hf item,
      Block.writeItems_replaceItems hf items]

end

end

namespace Document

theorem writeOut_splitSpans (d : Document) : d.splitSpans.writeOut = d.writeOut := by
  have hf : Inline.Restores splitText := fun value hne rest => Spans.foldr_splitText hne rest
  rw [splitSpans_eq_replaceTexts, writeOut, replaceTexts, Block.writeAll_replaceAll hf]
  rfl

/-- **Cutting puts the pieces of each text in its place and touches nothing else.** It is the
traversal of the whole document that gives each text leaf of a heading, paragraph or cell its
pieces, if the text is not empty and in no superscript or subscript, and a traversal that gives
each text itself is none at all. Written out, a document is the same before and after. -/
theorem splitSpans_in_place (d : Document) :
    d.splitSpans = d.replaceTexts splitText ∧
    d.replaceTexts (fun value => [.text value]) = d ∧
    d.splitSpans.writeOut = d.writeOut := by
  exact ⟨d.splitSpans_eq_replaceTexts, replaceTexts_eq_self fun _ _ _ => rfl, d.writeOut_splitSpans⟩

end Document

end Typeset
