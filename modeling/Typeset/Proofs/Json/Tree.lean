/-
Documents survive being written and read.

Reading a document's JSON form gives the document back, and so does reading any
other spelling of that form: its objects may have their fields in another
order, further fields, and no language or label where there is none. So no two
documents are written alike.
-/
import Typeset.Json.Document
import Typeset.Proofs.Json.Respelled

namespace Typeset

open Json (Respelled)

/-! ## Phrasing content -/

mutual

/-- An inline is read back, inside another node or not. -/
theorem Inline.ofJson?_respelled : ∀ (i : Inline) (inside : Bool) {j : Json},
    Respelled i.toJson j → Inline.ofJson? inside j = some i
  | .text _, inside, j, h | .inlineCode _, inside, j, h | .inlineMath _, inside, j, h => by
    obtain ⟨fs, hv, hfound⟩ := h.variant? (by simp) variants inside
    simp only [List.forall_mem_cons] at hfound
    obtain ⟨hvalue, -⟩ := hfound
    rw [Inline.ofJson?]
    simp [hv, hvalue.string?]
  | .footnoteReference identifier, inside, j, h => by
    obtain ⟨fs, hv, hfound⟩ := h.variant? (by simp) variants inside
    simp only [List.forall_mem_cons] at hfound
    obtain ⟨hidentifier, -⟩ := hfound
    rw [Inline.ofJson?]
    simp [hv, hidentifier.string?]
  | .image url alt, inside, j, h => by
    obtain ⟨fs, hv, hfound⟩ := h.variant? (by simp) variants inside
    simp only [List.forall_mem_cons] at hfound
    obtain ⟨hurl, halt, -⟩ := hfound
    rw [Inline.ofJson?]
    simp [hv, hurl.string?, halt.string?]
  | .lineBreak, inside, j, h => by
    obtain ⟨fs, hv, -⟩ := h.variant? (by simp) variants inside
    rw [Inline.ofJson?]
    simp [hv]
  | .strong children, inside, j, h | .emphasis children, inside, j, h
  | .strike children, inside, j, h | .highlight children, inside, j, h
  | .subscript children, inside, j, h | .superscript children, inside, j, h => by
    obtain ⟨fs, hv, hfound⟩ := h.variant? (by simp) variants inside
    simp only [List.forall_mem_cons] at hfound
    obtain ⟨hchildren, -⟩ := hfound
    obtain ⟨cs, hlt, hcs, hitems⟩ := hchildren.items?
    rw [Inline.ofJson?]
    simp [hv, hcs, Inline.ofJsons?_respelled children true hitems]
  | .link url children, inside, j, h => by
    obtain ⟨fs, hv, hfound⟩ := h.variant? (by simp) variants inside
    simp only [List.forall_mem_cons] at hfound
    obtain ⟨hurl, hchildren, -⟩ := hfound
    obtain ⟨cs, hlt, hcs, hitems⟩ := hchildren.items?
    rw [Inline.ofJson?]
    simp [hv, hurl.string?, hcs, Inline.ofJsons?_respelled children true hitems]
  | .linkReference identifier label children, inside, j, h => by
    obtain ⟨fs, hv, hfound⟩ := h.variant? (by simp) variants inside
    simp only [List.forall_mem_cons] at hfound
    obtain ⟨hidentifier, hlabel, hchildren, -⟩ := hfound
    have hlabel := hlabel.optional? (by simp) fun _ _ => Respelled.string?
    obtain ⟨cs, hlt, hcs, hitems⟩ := hchildren.items?
    rw [Inline.ofJson?]
    simp [hv, hidentifier.string?, hlabel, hcs, Inline.ofJsons?_respelled children true hitems]

theorem Inline.ofJsons?_respelled : ∀ (is : List Inline) (inside : Bool) {js : List Json},
    List.Forall₂ Respelled (Inline.toJsons is) js → Inline.ofJsons? inside js = some is
  | [], _, _, h => by
    rw [Inline.toJsons, List.forall₂_nil_left_iff] at h
    rw [h, Inline.ofJsons?]
    rfl
  | i :: is, inside, _, h => by
    rw [Inline.toJsons, List.forall₂_cons_left_iff] at h
    obtain ⟨j, js, hj, hjs, rfl⟩ := h
    rw [Inline.ofJsons?]
    simp [Inline.ofJson?_respelled i inside hj, Inline.ofJsons?_respelled is inside hjs]

end

/-! ## Blocks -/

theorem Align.toJson_ne_null (a : Align) : a.toJson ≠ .null := by
  cases a <;> simp [Align.toJson]

theorem Align.ofJson?_respelled (a : Align) {j : Json} (h : Respelled a.toJson j) :
    Align.ofJson? j = some a := by
  cases a <;> cases h <;> rfl

theorem Align.optional?_respelled (a : Option Align) {j : Json}
    (h : Respelled (.ofOption Align.toJson a) j) :
    Json.optional? Align.ofJson? (some j) = some a :=
  (Json.Found.value h).optional? Align.toJson_ne_null fun a _ => a.ofJson?_respelled

theorem Block.inlines?_respelled (is : List Inline) {j : Json}
    (h : Respelled (.arr (Inline.toJsons is)) j) : Block.inlines? j = some is := by
  cases h with
  | arr hitems => exact Inline.ofJsons?_respelled is true hitems

theorem Block.rows?_respelled (rows : List (List (List Inline))) {j : Json}
    (h : Respelled (.arr (rows.map fun row =>
      .arr (row.map fun cell => .arr (Inline.toJsons cell)))) j) :
    Json.listOf? (Json.listOf? Block.inlines?) j = some rows :=
  h.listOf? fun _ _ hrow => hrow.listOf? fun cell _ => Block.inlines?_respelled cell

mutual

/-- A block is read back, inside another node or not. -/
theorem Block.ofJson?_respelled : ∀ (b : Block) (inside : Bool) {j : Json},
    Respelled b.toJson j → Block.ofJson? inside j = some b
  | .frontmatter _, inside, j, h | .mathBlock _, inside, j, h => by
    obtain ⟨fs, hv, hfound⟩ := h.variant? (by simp) variants inside
    simp only [List.forall_mem_cons] at hfound
    obtain ⟨hvalue, -⟩ := hfound
    rw [Block.ofJson?]
    simp [hv, hvalue.string?]
  | .linkDefinition identifier url, inside, j, h => by
    obtain ⟨fs, hv, hfound⟩ := h.variant? (by simp) variants inside
    simp only [List.forall_mem_cons] at hfound
    obtain ⟨hidentifier, hurl, -⟩ := hfound
    rw [Block.ofJson?]
    simp [hv, hidentifier.string?, hurl.string?]
  | .footnoteDefinition identifier children, inside, j, h => by
    obtain ⟨fs, hv, hfound⟩ := h.variant? (by simp) variants inside
    simp only [List.forall_mem_cons] at hfound
    obtain ⟨hidentifier, hchildren, -⟩ := hfound
    obtain ⟨cs, hlt, hcs, hitems⟩ := hchildren.items?
    rw [Block.ofJson?]
    simp [hv, hidentifier.string?, hcs, Block.ofJsons?_respelled children true hitems]
  | .heading depth children, inside, j, h => by
    obtain ⟨fs, hv, hfound⟩ := h.variant? (by simp) variants inside
    simp only [List.forall_mem_cons] at hfound
    obtain ⟨hdepth, hchildren, -⟩ := hfound
    have hdepth := hdepth.read? (by simp) fun _ => Respelled.byte? depth
    have hchildren := hchildren.read? (by simp) fun _ => Block.inlines?_respelled children
    rw [Block.ofJson?]
    simp [hv, hdepth, hchildren]
  | .paragraph children, inside, j, h => by
    obtain ⟨fs, hv, hfound⟩ := h.variant? (by simp) variants inside
    simp only [List.forall_mem_cons] at hfound
    obtain ⟨hchildren, -⟩ := hfound
    have hchildren := hchildren.read? (by simp) fun _ => Block.inlines?_respelled children
    rw [Block.ofJson?]
    simp [hv, hchildren]
  | .list ordered items, inside, j, h => by
    obtain ⟨fs, hv, hfound⟩ := h.variant? (by simp) variants inside
    simp only [List.forall_mem_cons] at hfound
    obtain ⟨hordered, hitems, -⟩ := hfound
    have hordered := hordered.read? (by simp) fun _ => Respelled.bool?
    obtain ⟨js, hlt, hjs, hitems⟩ := hitems.items?
    rw [Block.ofJson?]
    simp [hv, hordered, hjs, Block.itemsOfJsons?_respelled items hitems]
  | .codeBlock lang value, inside, j, h => by
    obtain ⟨fs, hv, hfound⟩ := h.variant? (by simp) variants inside
    simp only [List.forall_mem_cons] at hfound
    obtain ⟨hlang, hvalue, -⟩ := hfound
    have hlang := hlang.optional? (by simp) fun _ _ => Respelled.string?
    rw [Block.ofJson?]
    simp [hv, hlang, hvalue.string?]
  | .blockquote children, inside, j, h => by
    obtain ⟨fs, hv, hfound⟩ := h.variant? (by simp) variants inside
    simp only [List.forall_mem_cons] at hfound
    obtain ⟨hchildren, -⟩ := hfound
    obtain ⟨cs, hlt, hcs, hitems⟩ := hchildren.items?
    rw [Block.ofJson?]
    simp [hv, hcs, Block.ofJsons?_respelled children true hitems]
  | .thematicBreak, inside, j, h => by
    obtain ⟨fs, hv, -⟩ := h.variant? (by simp) variants inside
    rw [Block.ofJson?]
    simp [hv]
  | .table align rows, inside, j, h => by
    obtain ⟨fs, hv, hfound⟩ := h.variant? (by simp) variants inside
    simp only [List.forall_mem_cons] at hfound
    obtain ⟨halign, hrows, -⟩ := hfound
    have halign := halign.read? (by simp) fun _ ha =>
      ha.listOf? fun a _ => Align.optional?_respelled a
    have hrows := hrows.read? (by simp) fun _ => Block.rows?_respelled rows
    rw [Block.ofJson?]
    simp [hv, halign, hrows]

theorem Block.ofJsons?_respelled : ∀ (bs : List Block) (inside : Bool) {js : List Json},
    List.Forall₂ Respelled (Block.toJsons bs) js → Block.ofJsons? inside js = some bs
  | [], _, _, h => by
    rw [Block.toJsons, List.forall₂_nil_left_iff] at h
    rw [h, Block.ofJsons?]
    rfl
  | b :: bs, inside, _, h => by
    rw [Block.toJsons, List.forall₂_cons_left_iff] at h
    obtain ⟨j, js, hj, hjs, rfl⟩ := h
    rw [Block.ofJsons?]
    simp [Block.ofJson?_respelled b inside hj, Block.ofJsons?_respelled bs inside hjs]

theorem Block.itemsOfJsons?_respelled : ∀ (items : List (List Block)) {js : List Json},
    List.Forall₂ Respelled (Block.itemsToJsons items) js → Block.itemsOfJsons? js = some items
  | [], _, h => by
    rw [Block.itemsToJsons, List.forall₂_nil_left_iff] at h
    rw [h, Block.itemsOfJsons?]
    rfl
  | bs :: items, _, h => by
    rw [Block.itemsToJsons, List.forall₂_cons_left_iff] at h
    obtain ⟨j, js, hj, hjs, rfl⟩ := h
    obtain ⟨fs, hfs, hfound⟩ := hj.record? (by simp) ["children"]
    simp only [List.forall_mem_cons] at hfound
    obtain ⟨hchildren, -⟩ := hfound
    obtain ⟨cs, hlt, hcs, hitems⟩ := hchildren.items?
    have hitem : Block.itemOfJson? j = some bs := by
      rw [Block.itemOfJson?]
      simp [hfs, hcs, Block.ofJsons?_respelled bs true hitems]
    rw [Block.itemsOfJsons?]
    simp [hitem, Block.itemsOfJsons?_respelled items hjs]

end

/-! ## Documents -/

namespace Document

theorem ofJson?_respelled (d : Document) {j : Json} (h : Respelled d.toJson j) :
    ofJson? j = some d := by
  obtain ⟨fs, hfs, hfound⟩ := h.record? (by simp) ["children"]
  simp only [List.forall_mem_cons] at hfound
  obtain ⟨hchildren, -⟩ := hfound
  obtain ⟨cs, hlt, hcs, hitems⟩ := hchildren.items?
  simp [ofJson?, hfs, hcs, Block.ofJsons?_respelled d.children false hitems]

/-- **A document survives being written and read**, whatever its blocks hold. Its JSON form is read
back, and so is the form with the fields of any objects in another order, with fields added that an
object does not have, and without languages and labels that are null. No other document has the
same form. -/
theorem json_roundtrip (d : Document) :
    ofJson? d.toJson = some d ∧
    (∀ j, Respelled d.toJson j → ofJson? j = some d) ∧
    ∀ e : Document, e.toJson = d.toJson → e = d := by
  have hread : ∀ d : Document, ofJson? d.toJson = some d := fun d => d.ofJson?_respelled (.refl _)
  refine ⟨hread d, fun j => d.ofJson?_respelled, fun e he => ?_⟩
  have hsome : some e = some d := by rw [← hread e, he, hread d]
  exact Option.some.inj hsome

/-- Code without a language and a reference without a label. -/
def unlabelled : Document := ⟨[.codeBlock none "x", .paragraph [.linkReference "r" none []]]⟩

/-- The form of such a document with a field added, two in another order and the nulls left out. -/
def unlabelledSpelling : Json :=
  .obj [("version", .int 1), ("children", .arr
    [.obj [("value", .str "x"), ("type", .str "codeBlock")],
     .node "paragraph" [("children", .arr
       [.node "linkReference" [("identifier", .str "r"), ("children", .arr [])]])]])]

theorem json_roundtrip_unlabelled :
    Respelled unlabelled.toJson unlabelledSpelling ∧
    ofJson? unlabelledSpelling = some unlabelled := by
  have hcode : Respelled (Block.codeBlock none "x").toJson
      (.obj [("value", .str "x"), ("type", .str "codeBlock")]) :=
    .obj (.keep (.refl _) (.leave (.keep (.refl _) .nil))) (List.forall_mem_nil _) (.swap _ _ _)
  have hreference : Respelled (Inline.linkReference "r" none []).toJson
      (.node "linkReference" [("identifier", .str "r"), ("children", .arr [])]) :=
    .obj (.keep (.refl _) (.keep (.refl _) (.leave (.keep (.refl _) .nil))))
      (List.forall_mem_nil _) (.refl _)
  have hparagraph : Respelled (Block.paragraph [.linkReference "r" none []]).toJson
      (.node "paragraph" [("children", .arr
        [.node "linkReference" [("identifier", .str "r"), ("children", .arr [])]])]) :=
    .obj (.keep (.refl _) (.keep (.arr (.cons hreference .nil)) .nil)) (List.forall_mem_nil _)
      (.refl _)
  have hspelling : Respelled unlabelled.toJson unlabelledSpelling := by
    refine .obj (.keep (.arr (.cons hcode (.cons hparagraph .nil))) .nil) ?_ (.swap _ _ _)
    simp
  exact ⟨hspelling, (json_roundtrip unlabelled).2.1 _ hspelling⟩

end Document

end Typeset
