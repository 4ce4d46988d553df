/-
Escaped text between constructs.

A reader of markup takes a backslash for the protection of the character behind
it, and every other character for what it means, or for itself where it is
protected. In escaped text each special character is protected, and nothing
else is: so the text is read back from it, and the markup around it is read as
if it were not there. The constructs of markup are set off by special
characters, and so text never begins or ends one. Headings and list items are
not: these are marked by other characters at the start of a line, which escaped
text may hold.
-/
import Typeset.Proofs.Markup.Delimited
import Typeset.Proofs.Markup.Fence
import Typeset.Proofs.Render.Neighbours
import Typeset.Proofs.Render.Shown

namespace Typeset

namespace Markup

/-! ## Reading with protection -/

/-- What a reader of markup takes a character for. -/
inductive Role where
  /-- It has its meaning in markup. -/
  | bare
  /-- It is a backslash that protects the character behind it. -/
  | guard
  /-- It stands behind a guard, and for itself. -/
  | guarded
  deriving DecidableEq

/-- The roles of characters, given whether the first stands behind a guard. -/
def rolesFrom : Bool → List Char → List (Role × Char)
  | _, [] => []
  | true, c :: cs => (.guarded, c) :: rolesFrom false cs
  | false, c :: cs =>
    if c = '\\' then (.guard, c) :: rolesFrom true cs else (.bare, c) :: rolesFrom false cs

/-- The roles of characters that are read from the left. -/
def roles (cs : List Char) : List (Role × Char) := rolesFrom false cs

/-- What is left of characters without the guards among them. -/
def unguarded (marks : List (Role × Char)) : List Char :=
  (marks.filter fun m => m.1 ≠ .guard).map (·.2)

/-- The special characters that are not protected, nor guards. -/
def signs (cs : List Char) : List Char :=
  ((roles cs).filter fun m => m.1 = .bare ∧ isSpecial m.2).map (·.2)

/-- Behind characters that are read, reading goes on with the protection that they leave. -/
theorem roles_append (front cs : List Char) :
    roles (front ++ cs) = roles front ++ rolesFrom (protecting front) cs := by
  induction front using List.reverseRecOn generalizing cs with
  | nil => rfl
  | append_singleton front c ih =>
    rw [List.append_assoc, List.singleton_append, ih, ih, List.append_assoc, protecting_concat]
    congr 1
    cases protecting front with
    | true => simp [rolesFrom]
    | false =>
      by_cases hc : c = '\\'
      · simp [rolesFrom, hc]
      · simp [rolesFrom, hc, beq_false_of_ne hc]

theorem roles_append_of_not_protecting {front : List Char} (h : protecting front = false)
    (cs : List Char) : roles (front ++ cs) = roles front ++ roles cs := by
  rw [roles_append, h]
  rfl

theorem signs_append_of_not_protecting {front : List Char} (h : protecting front = false)
    (cs : List Char) : signs (front ++ cs) = signs front ++ signs cs := by
  simp only [signs, roles_append_of_not_protecting h, List.filter_append, List.map_append]

/-- A character stands bare or guards the next where nothing protects it. -/
theorem mem_roles_of_not_protecting {before : List Char} (h : protecting before = false) (c : Char)
    (after : List Char) :
    (if c = '\\' then Role.guard else .bare, c) ∈ roles (before ++ c :: after) := by
  rw [roles_append_of_not_protecting h]
  refine List.mem_append_right _ ?_
  simp only [roles, rolesFrom]
  split <;> simp

/-! ## Escaped text -/

/-- The roles in what is written for a character. -/
def escapeRoles (c : Char) : List (Role × Char) :=
  if isSpecial c then [(.guard, '\\'), (.guarded, c)] else [(.bare, c)]

theorem roles_escapeChar_append (c : Char) (cs : List Char) :
    roles (escapeChar c ++ cs) = escapeRoles c ++ roles cs := by
  unfold escapeChar escapeRoles
  split
  · rfl
  · rename_i hs
    have hc : c ≠ '\\' := by
      rintro rfl
      exact hs rfl
    simp [roles, rolesFrom, hc]

/-- **Escaped text is read one character at a time,** whatever stands behind it. -/
theorem roles_escapeText_append (s : String) (t : List Char) :
    roles ((escapeText s).toList ++ t) = s.toList.flatMap escapeRoles ++ roles t := by
  rw [escapeText, String.toList_ofList]
  induction s.toList with
  | nil => rfl
  | cons c cs ih =>
    rw [List.flatMap_cons, List.append_assoc, roles_escapeChar_append, ih, List.flatMap_cons,
      List.append_assoc]

theorem roles_escapeText (s : String) :
    roles (escapeText s).toList = s.toList.flatMap escapeRoles := by
  simpa [roles, rolesFrom] using roles_escapeText_append s []

/-- Only what is special is protected, and all of it is. -/
theorem of_mem_roles_escapeText {s : String} {role : Role} {c : Char}
    (h : (role, c) ∈ roles (escapeText s).toList) : (role = .bare → isSpecial c = false) ∧
      (role = .guard → c = '\\') ∧ (role = .guarded → isSpecial c = true) := by
  rw [roles_escapeText, List.mem_flatMap] at h
  obtain ⟨d, -, hd⟩ := h
  unfold escapeRoles at hd
  split at hd
  · rename_i hs
    simp only [List.mem_cons, Prod.mk.injEq, List.not_mem_nil, or_false] at hd
    obtain ⟨rfl, rfl⟩ | ⟨rfl, rfl⟩ := hd
    · simp
    · simpa using hs
  · rename_i hs
    simp only [List.mem_singleton, Prod.mk.injEq] at hd
    obtain ⟨rfl, rfl⟩ := hd
    simpa using hs

/-- **The text is what escaped text says without its guards.** -/
theorem unguarded_roles_escapeText (s : String) :
    unguarded (roles (escapeText s).toList) = s.toList := by
  have hone (c : Char) : ((escapeRoles c).filter fun m => m.1 ≠ .guard).map (·.2) = [c] := by
    unfold escapeRoles
    split <;> rfl
  rw [unguarded, roles_escapeText, List.filter_flatMap, List.map_flatMap]
  simp only [hone, List.flatMap_singleton']

theorem signs_escapeText (s : String) : signs (escapeText s).toList = [] := by
  rw [signs, List.map_eq_nil_iff, List.filter_eq_nil_iff]
  rintro ⟨role, c⟩ hm hsign
  obtain ⟨hbare, hs⟩ : role = .bare ∧ isSpecial c = true := by simpa using hsign
  rw [(of_mem_roles_escapeText hm).1 hbare] at hs
  cases hs

/-- **The markup around escaped text is read as if the text were not there.** -/
theorem signs_around_escapeText {front : List Char} (h : protecting front = false) (s : String)
    (t : List Char) : signs (front ++ ((escapeText s).toList ++ t)) = signs (front ++ t) := by
  rw [signs_append_of_not_protecting h, signs_append_of_not_protecting (protecting_escapeText s),
    signs_escapeText, List.nil_append, signs_append_of_not_protecting h]

/-! ## Constructs -/

/-- Markup that begins with a special character, no guard. -/
def Opens (m : String) : Prop :=
  ∃ first rest, m.toList = first :: rest ∧ isSpecial first = true ∧ first ≠ '\\'

/-- Markup that ends with a special character, or with the parenthesis of a call. -/
def Closes (m : String) : Prop :=
  ∃ rest last, m.toList = rest ++ [last] ∧ (isSpecial last = true ∨ last = ')')

/-- **Nothing that a special character opens begins in escaped text,** unless that protects it. -/
theorem Opens.protecting {m : String} (h : Opens m) {s : String} {t before after : List Char}
    (hm : (escapeText s).toList ++ t = before ++ (m.toList ++ after))
    (hbefore : before.length < (escapeText s).toList.length) : Markup.protecting before = true := by
  obtain ⟨first, rest, hfirst, hspecial, hguard⟩ := h
  by_contra hbare
  rw [hfirst, List.cons_append] at hm
  obtain ⟨more, hprose⟩ : ∃ more, (escapeText s).toList = before ++ first :: more := by
    obtain ⟨gap, rfl, -⟩ | ⟨tail, hprose, htail⟩ := List.append_eq_append_iff.1 hm
    · rw [List.length_append] at hbefore
      omega
    · cases tail with
      | nil => simp [hprose] at hbefore
      | cons d more =>
        obtain ⟨rfl, -⟩ := List.cons.inj htail
        exact ⟨more, hprose⟩
  have hrole := mem_roles_of_not_protecting (by simpa using hbare) first more
  rw [if_neg hguard, ← hprose] at hrole
  rw [(of_mem_roles_escapeText hrole).1 rfl] at hspecial
  cases hspecial

/-- Markup between what opens it and what closes it. -/
def SetOff (m : String) : Prop :=
  ∃ front inside back, m = front ++ inside ++ back ∧ Opens front ∧ Closes back

theorem Opens.append {m : String} (h : Opens m) (m' : String) : Opens (m ++ m') := by
  obtain ⟨first, rest, hm, hfirst⟩ := h
  exact ⟨first, rest ++ m'.toList, by simp [hm], hfirst⟩

theorem SetOff.opens {m : String} (h : SetOff m) : Opens m := by
  obtain ⟨front, inside, back, rfl, hfront, -⟩ := h
  exact (hfront.append inside).append back

theorem closes_bracket : Closes "]" := ⟨[], ']', rfl, .inl rfl⟩

theorem closes_parenthesis : Closes ")" := ⟨[], ')', rfl, .inr rfl⟩

theorem setOff_marked {mark : String} {c : Char} (hmark : mark.toList = [c])
    (hc : isSpecial c = true ∧ c ≠ '\\') (inside : String) : SetOff (mark ++ inside ++ mark) :=
  ⟨mark, inside, mark, rfl, ⟨c, [], hmark, hc⟩, [], c, hmark, .inl hc.1⟩

theorem IsCall.setOff {m : String} (h : IsCall m) : SetOff m := by
  have hopens (rest : String) : Opens ("#" ++ rest) := ⟨'#', rest.toList, by simp, rfl, by decide⟩
  cases h with
  | content function content =>
    exact ⟨"#" ++ (function ++ "["), content, "]", by simp only [call, String.append_assoc],
      hopens _, closes_bracket⟩
  | image url =>
    exact ⟨"#image(", quote url, ")", rfl, hopens "image(", closes_parenthesis⟩
  | link url label =>
    exact ⟨"#link(" ++ quote url ++ ")[", _, "]", rfl,
      ((hopens "link(").append _).append _, closes_bracket⟩

theorem opens_codeFence (value : String) : Opens (codeFence value) ∧ Closes (codeFence value) := by
  obtain ⟨n, hn⟩ : ∃ n, fenceLength value = n + 1 :=
    Nat.exists_eq_add_one.2 (Nat.lt_of_lt_of_le (by decide) (Nat.le_max_right ..))
  refine ⟨⟨'\x60', backquotes n, ?_, rfl, by decide⟩, backquotes n, '\x60', ?_, .inl rfl⟩
  · rw [toList_codeFence, hn]
    rfl
  · rw [toList_codeFence, hn, backquotes, List.replicate_succ']
    rfl

theorem setOff_codeBlock (lang : Option String) (value : String) :
    SetOff (codeBlock lang value 0) := by
  obtain ⟨hopens, hcloses⟩ := opens_codeFence (dropFinalNewline value)
  rw [codeBlock_eq, Text.indent_zero]
  refine ⟨_, Text.trimBlanks (lang.getD "") ++ "\n" ++ dropFinalNewline value ++ "\n", _, ?_,
    hopens, hcloses⟩
  simp only [fenced, String.append_assoc]

theorem setOff_quoteBlock (body : String) : SetOff (quoteBlock body 0) := by
  have hopens : Opens "#quote[" := ⟨'#', "quote[".toList, rfl, rfl, by decide⟩
  unfold quoteBlock
  rw [Text.indent_zero, Text.indent_zero]
  split
  · exact ⟨_, "\n", _, rfl, hopens, closes_bracket⟩
  · refine ⟨_, "\n" ++ Text.indent 1 body ++ "\n", _, ?_, hopens, closes_bracket⟩
    simp only [Text.joinWith, String.append_assoc]

theorem setOff_table (align : List (Option Align)) (columns : Nat) (cells : List String) :
    SetOff (table align columns cells) := by
  have hopens : Opens "#table(" := ⟨'#', "table(".toList, rfl, rfl, by decide⟩
  have hinside (a b c : String) : Text.joinWith "\n" ["#table(", a, b, c, ")"] =
      "#table(" ++ ("\n" ++ a ++ "\n" ++ b ++ "\n" ++ c ++ "\n") ++ ")" := by
    simp only [Text.joinWith, String.append_assoc]
  exact ⟨_, _, _, hinside _ _ _, hopens, closes_parenthesis⟩

theorem setOff_mathBlock (value : String) : SetOff (mathBlock value) :=
  ⟨"$ ", Text.trimBlanks value, " $", rfl, ⟨'$', [' '], rfl, rfl, by decide⟩, [' '], '$', rfl,
    .inl rfl⟩

theorem setOff_outline : SetOff outline :=
  ⟨"#outline(", "title: auto, indent: auto", ")", rfl,
    ⟨'#', "outline(".toList, rfl, rfl, by decide⟩, closes_parenthesis⟩

theorem setOff_thematicBreak : SetOff thematicBreak :=
  ⟨"#line(", "length: 100%, stroke: 0.6pt", ")", rfl,
    ⟨'#', "line(".toList, rfl, rfl, by decide⟩, closes_parenthesis⟩

end Markup

/-- An inline that is set off: all but texts, hard breaks, and references that give way to a
text. -/
def Inline.isSetOff (refs : References) : Inline → Bool
  | .text _ | .lineBreak => false
  | .linkReference identifier _ _ => (refs.url? identifier).isSome
  | _ => true

/-- A block that is set off: all but headings, lists, and paragraphs that do not stand for the
outline. -/
def Block.isSetOff (refs : References) : Block → Bool
  | .heading _ _ | .list _ _ => false
  | .paragraph children => Inline.isOutline refs children
  | _ => true

namespace Context

/-- The markup of an inline, or of a block at the outermost level, that is set off. -/
inductive Construct (c : Context) : String → Prop
  | inline {i : Inline} {m : String} :
      i.isSetOff c.references = true → (c.renderInline i).1 = some m → Construct c m
  | block {b : Block} {m : String} :
      b.isSetOff c.references = true → (c.renderBlock b 0).1 = some m → Construct c m

open Markup (SetOff escapeText roles unguarded signs protecting isSpecial)

theorem setOff_renderInline (c : Context) {i : Inline} {m : String}
    (hi : i.isSetOff c.references = true) (hm : (c.renderInline i).1 = some m) : SetOff m := by
  by_cases hcall : i.isCall c.references c.expander = true
  · obtain ⟨call, hvalue, his⟩ :=
      Inline.exists_call (Inline.notesCall_expandNote c.references c.opened) hcall
    obtain rfl : call = m := Option.some.inj (hvalue.symm.trans hm)
    exact his.setOff
  · cases i with
    | text | lineBreak => cases hi
    | strong => exact Option.some.inj hm ▸ Markup.setOff_marked rfl ⟨rfl, by decide⟩ _
    | emphasis => exact Option.some.inj hm ▸ Markup.setOff_marked rfl ⟨rfl, by decide⟩ _
    | inlineCode => exact Option.some.inj hm ▸ Markup.setOff_marked rfl ⟨rfl, by decide⟩ _
    | inlineMath => exact Option.some.inj hm ▸ Markup.setOff_marked rfl ⟨rfl, by decide⟩ _
    | linkReference => exact absurd hi hcall
    | footnoteReference identifier =>
      -- A note that is not expanded has no markup.
      have hnone : (c.expander identifier).value = none := by simpa [Inline.isCall] using hcall
      exact absurd (hnone.symm.trans hm) (by simp)
    | strike | highlight | subscript | superscript | link | image => exact absurd rfl hcall

theorem setOff_renderBlock (c : Context) {b : Block} {m : String}
    (hb : b.isSetOff c.references = true) (hm : (c.renderBlock b 0).1 = some m) : SetOff m := by
  simp only [renderBlock, record] at hm
  cases b with
  | heading | list => cases hb
  | frontmatter | linkDefinition | footnoteDefinition => simp [Block.render] at hm
  | paragraph children =>
    have ho : Inline.isOutline c.references children := by simpa [Block.isSetOff] using hb
    simp only [Block.render, Inline.renderParagraph_eq, if_pos ho, Logged.value_bind,
      Logged.value_pure, Text.indent_zero, Option.some.injEq] at hm
    exact hm ▸ Markup.setOff_outline
  | codeBlock lang value =>
    simp only [Block.render, Logged.value_pure, Option.some.injEq] at hm
    exact hm ▸ Markup.setOff_codeBlock lang value
  | blockquote =>
    simp only [Block.render, Logged.value_bind, Logged.value_pure, Option.some.injEq] at hm
    exact hm ▸ Markup.setOff_quoteBlock _
  | thematicBreak =>
    simp only [Block.render, Logged.value_pure, Text.indent_zero, Option.some.injEq] at hm
    exact hm ▸ Markup.setOff_thematicBreak
  | table align rows =>
    cases rows with
    | nil => simp [Block.render, renderTable] at hm
    | cons header body =>
      simp only [Block.render, renderTable, Logged.value_bind, Logged.value_pure, Text.indent_zero,
        Option.some.injEq] at hm
      exact hm ▸ Markup.setOff_table _ _ _
  | mathBlock value =>
    simp only [Block.render, Logged.value_pure, Text.indent_zero, Option.some.injEq] at hm
    exact hm ▸ Markup.setOff_mathBlock value

theorem Construct.setOff {c : Context} {m : String} (h : c.Construct m) : SetOff m := by
  cases h with
  | inline hi hm => exact c.setOff_renderInline hi hm
  | block hb hm => exact c.setOff_renderBlock hb hm

/-- **Escaped text stays apart from the markup around it.** Whatever stands behind it, it is read
up to its end and leaves nothing protected; of its characters exactly the special ones are
protected, each by a backslash of its own, and without these backslashes it is the text. It is
written character by character, and no two texts are written alike. Markup before it and behind it
has the same special characters that are not protected as if the text were not there. Every
construct that is set off begins with such a character, and ends with one or with the parenthesis of
its call: so its markup begins in escaped text only where that protects it, and escaped text adds
nothing that ends it. -/
theorem escaped_text_stays_apart (s : String) :
    (∀ t, roles ((escapeText s).toList ++ t) = roles (escapeText s).toList ++ roles t) ∧
    (∀ role ch, (role, ch) ∈ roles (escapeText s).toList → (role = .bare → isSpecial ch = false) ∧
      (role = .guard → ch = '\\') ∧ (role = .guarded → isSpecial ch = true)) ∧
    unguarded (roles (escapeText s).toList) = s.toList ∧
    (∀ t, escapeText (s ++ t) = escapeText s ++ escapeText t) ∧
    (∀ t, escapeText t = escapeText s → t = s) ∧
    (∀ front t, protecting front = false →
      signs (front ++ ((escapeText s).toList ++ t)) = signs (front ++ t)) ∧
    ∀ (c : Context) (m : String), c.Construct m → SetOff m ∧
      ∀ t before after, (escapeText s).toList ++ t = before ++ (m.toList ++ after) →
        before.length < (escapeText s).toList.length → protecting before = true := by
  refine ⟨fun t => ?_, fun role ch hm => Markup.of_mem_roles_escapeText hm,
    Markup.unguarded_roles_escapeText s, Markup.escapeText_append s,
    fun t ht => Markup.escapeText_injective ht,
    fun front t hfront => Markup.signs_around_escapeText hfront s t, fun c m hm => ?_⟩
  · exact Markup.roles_append_of_not_protecting (Markup.protecting_escapeText s) t
  · exact ⟨hm.setOff, fun t before after he hlt => hm.setOff.opens.protecting he hlt⟩

/-- A text that reads like the markup of an image, in an emphasised run. -/
theorem escaped_text_stays_apart_image :
    let c : Context := {}
    let m := "#image(\"p\")"
    (c.renderInline (.image "p" "")).1 = some m ∧ c.Construct m ∧
      (escapeText m).toList ++ ['_'] = ['\\'] ++ (m.toList ++ ['_']) ∧
      protecting ['\\'] = true ∧ protecting ['_'] = false ∧
      signs (['_'] ++ ((escapeText m).toList ++ ['_'])) = ['_', '_'] := by
  intro c m
  have hm : (c.renderInline (.image "p" "")).1 = some m := by decide +kernel
  have hconstruct : c.Construct m := .inline rfl hm
  have hfront : protecting ['_'] = false := by decide
  have htext : (escapeText m).toList ++ ['_'] = ['\\'] ++ (m.toList ++ ['_']) := by decide +kernel
  obtain ⟨-, -, -, -, -, hsigns, hconstructs⟩ := escaped_text_stays_apart m
  refine ⟨hm, hconstruct, htext, ?_, hfront, ?_⟩
  · exact (hconstructs c m hconstruct).2 ['_'] ['\\'] ['_'] htext (by decide +kernel)
  · rw [hsigns ['_'] ['_'] hfront]
    decide

/-- **Text at the start of a line is written as a heading or a list item.** -/
theorem escaped_text_marks_lines :
    let c : Context := {}
    let paragraph (value : String) := (c.renderBlock (.paragraph [.text value]) 0).1
    let heading := (c.renderBlock (.heading 1 [.text "x"]) 0).1
    let item (ordered : Bool) := (c.renderBlock (.list ordered [[.paragraph [.text "x"]]]) 0).1
    paragraph "= x" = some "= x" ∧ heading = some "= x" ∧
      paragraph "- x" = some "- x" ∧ item false = some "- x" ∧
      paragraph "+ x" = some "+ x" ∧ item true = some "+ x" ∧
      ¬ ∀ m, heading = some m → ∀ before after,
        (Markup.escapeText "= x").toList = before ++ (m.toList ++ after) →
          before.length < (Markup.escapeText "= x").toList.length →
            Markup.protecting before = true := by
  intro c paragraph heading item
  refine ⟨by decide +kernel, by decide +kernel, by decide +kernel, by decide +kernel,
    by decide +kernel, by decide +kernel, fun h => ?_⟩
  exact absurd (h "= x" (by decide +kernel) [] [] (by decide) (by decide)) (by decide)

end Context

end Typeset
