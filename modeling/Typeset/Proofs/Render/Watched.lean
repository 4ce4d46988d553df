/-
Rendering as it passes a context on.

Here a rendering takes a context and leaves one. It enters and leaves notes and
records warnings in the context itself, and nothing but the notes open in the
context decides whether a note is expanded. How deep notes may nest is given as
a limit; beyond it there is no outcome. Beside the outcome stands which notes
were expanded, as a forest, with the open notes at each entry and exit.

What is shown: a limit of as many notes as are not open is never met, the
outcome is that of `Context.renderBlock` and its kin, and in the forest no note
lies inside itself.
-/
import Mathlib.Data.Finset.Card
import Typeset.Proofs.Render.Related
import Typeset.Render.Context

namespace Typeset

/-- The expansion of a note. -/
structure Expansion where
  key : String
  /-- The open notes while the blocks of the note are rendered. -/
  opened : List String
  /-- The open notes after the note was left. -/
  left : List String
  /-- The expansions on the way, in order. -/
  inner : List Expansion

namespace Expansion

/-- Every expansion of a forest, an outer one before those inside it. -/
def all : List Expansion → List Expansion
  | [] => []
  | ⟨key, opened, left, inner⟩ :: es => ⟨key, opened, left, inner⟩ :: all inner ++ all es

/-- How deep the expansions of a forest nest. -/
def depth : List Expansion → Nat
  | [] => 0
  | ⟨_, _, _, inner⟩ :: es => max (depth inner + 1) (depth es)

@[simp] theorem all_append (es fs : List Expansion) : all (es ++ fs) = all es ++ all fs := by
  induction es with
  | nil => simp [all]
  | cons e es ih => cases e; simp [all, ih]

@[simp] theorem depth_append (es fs : List Expansion) :
    depth (es ++ fs) = max (depth es) (depth fs) := by
  induction es with
  | nil => simp [depth]
  | cons e es ih => cases e; simp [depth, ih, Nat.max_assoc]

end Expansion

/-- What a rendering that passes a context on leads to. -/
structure Watched.Outcome (α : Type) where
  value : α
  context : Context
  /-- The notes that were expanded. -/
  expansions : List Expansion

/-- A rendering that passes a context on. It has no outcome if notes nest too deep. -/
def Watched (α : Type) : Type := Context → Option (Watched.Outcome α)

namespace Watched

instance : Monad Watched where
  pure a c := some ⟨a, c, []⟩
  bind x f c := do
    let first ← x c
    let next ← f first.value first.context
    return ⟨next.value, next.context, first.expansions ++ next.expansions⟩

instance : MonadWarn Watched := ⟨fun w c => some ⟨(), c.warn w, []⟩⟩

/-- Drops a note reference with a warning. -/
def drop (w : Warning) : Watched (Option String) := do
  MonadWarn.warn w
  return none

/-- What a note reference expands to, given how the references in its body expand: without that, no
note may be entered. -/
def expandWith (inner : Option (NoteExpander Watched)) : NoteExpander Watched := fun identifier c =>
  match c.references.note? identifier with
  | none => drop (.unresolvedFootnote identifier) c
  | some body =>
    let key := Text.lowercase identifier
    match c.enter? key with
    | none => drop (.recursiveFootnote identifier) c
    | some inside => do
      let o ← Block.renderAll c.references (← inner) 0 body inside
      let outside := o.context.exit
      return ⟨some (Markup.footnote o.value), outside,
        [⟨key, inside.opened, outside.opened, o.expansions⟩]⟩

/-- What a note reference expands to where notes may nest as deep as a limit. -/
def expandNote : Nat → NoteExpander Watched
  | 0 => expandWith none
  | limit + 1 => expandWith (some (expandNote limit))

end Watched

/-! ## The stack -/

/-- Keys of notes that `refs` defines, each once and none open in `s`. -/
structure References.Fresh (refs : References) (s keys : List String) : Prop where
  nodup : keys.Nodup
  closed : ∀ k ∈ keys, k ∉ s
  defined : ∀ k ∈ keys, k ∈ refs.noteKeys

theorem References.Fresh.nil {refs : References} {s : List String} : refs.Fresh s [] :=
  ⟨.nil, by simp, by simp⟩

theorem References.Fresh.cons {refs : References} {s keys : List String} {key : String}
    (h : refs.Fresh (s ++ [key]) keys) (hk : key ∈ refs.noteKeys) (hs : key ∉ s) :
    refs.Fresh s (key :: keys) := by
  refine ⟨List.nodup_cons.2 ⟨fun hm => h.closed key hm (by simp), h.nodup⟩, ?_, ?_⟩
  · intro k hm
    rcases List.mem_cons.1 hm with rfl | hm
    · exact hs
    · exact fun hks => h.closed k hm (by simp [hks])
  · intro k hm
    rcases List.mem_cons.1 hm with rfl | hm
    · exact hk
    · exact h.defined k hm

/-- How many notes are not open. -/
def References.room (refs : References) (s : List String) : Nat :=
  (refs.noteKeys.toFinset.filter (· ∉ s)).card

theorem References.room_lt {refs : References} {s : List String} {key : String}
    (hk : key ∈ refs.noteKeys) (hs : key ∉ s) : refs.room (s ++ [key]) < refs.room s := by
  refine Finset.card_lt_card (Finset.ssubset_iff_subset_ne.2 ⟨fun k hm => ?_, fun he => ?_⟩)
  · simp only [Finset.mem_filter, List.mem_append, not_or] at hm ⊢
    exact ⟨hm.1, hm.2.1⟩
  · have hm : key ∈ refs.noteKeys.toFinset.filter (· ∉ s) := by simp [hk, hs]
    rw [← he] at hm
    simp at hm

/-- How a forest grows where the notes `s` are open: a note is entered behind them and behind
distinct notes that are entered already, and lies in no expansion of its own. -/
structure Expansion.Orderly (refs : References) (s : List String) (es : List Expansion) : Prop where
  stacked : ∀ e ∈ all es, ∃ keys, e.left = s ++ keys ∧ e.opened = s ++ keys ++ [e.key] ∧
    refs.Fresh s (keys ++ [e.key])
  apart : ∀ e ∈ all es, e.key ∉ (all e.inner).map (·.key)

namespace Expansion.Orderly

variable {refs : References} {s : List String}

theorem nil : Orderly refs s [] := ⟨by simp [all], by simp [all]⟩

theorem append {es fs : List Expansion} (he : Orderly refs s es) (hf : Orderly refs s fs) :
    Orderly refs s (es ++ fs) := by
  constructor
  · intro e h
    rw [all_append, List.mem_append] at h
    exact h.elim (he.stacked e) (hf.stacked e)
  · intro e h
    rw [all_append, List.mem_append] at h
    exact h.elim (he.apart e) (hf.apart e)

/-- The expansion of a note that was not open, around those of its own blocks. -/
theorem enter {key : String} {es : List Expansion} (h : Orderly refs (s ++ [key]) es)
    (hk : key ∈ refs.noteKeys) (hs : key ∉ s) : Orderly refs s [⟨key, s ++ [key], s, es⟩] := by
  have hfresh : ∀ e ∈ all es, ∃ keys, e.left = s ++ (key :: keys) ∧
      e.opened = s ++ (key :: keys) ++ [e.key] ∧ refs.Fresh s (key :: keys ++ [e.key]) := by
    intro e he
    obtain ⟨keys, hl, ho, hf⟩ := h.stacked e he
    exact ⟨keys, by simp [hl], by simp [ho], hf.cons hk hs⟩
  constructor
  · intro e he
    simp only [all, List.append_nil, List.mem_cons] at he
    rcases he with rfl | he
    · exact ⟨[], by simp, by simp, References.Fresh.nil.cons hk hs⟩
    · obtain ⟨keys, hl, ho, hf⟩ := hfresh e he
      exact ⟨key :: keys, hl, ho, hf⟩
  · intro e he
    simp only [all, List.append_nil, List.mem_cons] at he
    rcases he with rfl | he
    · intro hm
      obtain ⟨e, he, rfl⟩ := List.mem_map.1 hm
      obtain ⟨keys, -, -, hf⟩ := h.stacked e he
      exact hf.closed e.key (by simp) (by simp)
    · exact h.apart e he

end Expansion.Orderly

/-! ## Both renderings -/

theorem Context.record_pure {α : Type} (c : Context) (a : α) : (c.record (pure a)).2 = c := by
  simp [record]

theorem Context.record_bind {α β : Type} (c : Context) (x : Logged α) (f : α → Logged β) :
    (c.record (x >>= f)).2 = ((c.record x).2.record (f x.value)).2 := by
  simp [record]

namespace Watched

/-- From every context where the notes `s` are open, `y` leads to the value of `x` and records its
warnings, and the notes it expands nest as they should. -/
def Follows (refs : References) (s : List String) {α : Type} (x : Logged α) (y : Watched α) :
    Prop :=
  ∀ c : Context, c.references = refs → c.opened = s → ∃ es,
    y c = some ⟨x.value, (c.record x).2, es⟩ ∧ Expansion.Orderly refs s es ∧
      Expansion.depth es ≤ refs.room s

/-- Following, as a relation that rendering keeps. -/
def follows (refs : References) (s : List String) : StepRelation Logged Watched where
  rel := Follows refs s
  pure a c _ _ := ⟨[], by rw [c.record_pure]; rfl, .nil, by simp [Expansion.depth]⟩
  bind {α β x y f g} hx hf c hr hs := by
    obtain ⟨es, hy, hes, hde⟩ := hx c hr hs
    obtain ⟨fs, hg, hfs, hdf⟩ := hf x.value (c.record x).2 hr hs
    refine ⟨es ++ fs, ?_, hes.append hfs, by simp [hde, hdf]⟩
    rw [c.record_bind]
    simp only [Bind.bind, hy, Option.bind_some, hg]
    rfl
  warn w c _ _ := ⟨[], rfl, .nil, by simp [Expansion.depth]⟩

theorem follows_drop (refs : References) (s : List String) (w : Warning) :
    Follows refs s (do Logged.warn w; return (none : Option String)) (drop w) :=
  (follows refs s).bind ((follows refs s).warn w) fun _ => (follows refs s).pure none

/-- A reference expands alike if the references in the body do, wherever there is room. -/
theorem follows_expandWith {refs : References} {s : List String}
    {inner : Option (NoteExpander Watched)}
    (h : 0 < refs.room s → ∃ e, inner = some e ∧ ∀ key, refs.room (s ++ [key]) < refs.room s →
      ∀ id, Follows refs (s ++ [key]) (Typeset.expandNote refs (s ++ [key]) id) (e id))
    (id : String) : Follows refs s (Typeset.expandNote refs s id) (expandWith inner id) := by
  intro c hr hs
  subst hr hs
  rw [expandWith]
  cases hn : c.references.note? id with
  | none =>
    rw [expandNote_undefined hn]
    exact follows_drop _ _ _ c rfl rfl
  | some body =>
    by_cases ho : Text.lowercase id ∈ c.opened
    · rw [expandNote_open hn ho]
      simp only [Context.enter?, ho, if_true]
      exact follows_drop _ _ _ c rfl rfl
    have hk := References.mem_noteKeys_of_note? hn
    have hlt := References.room_lt hk ho
    obtain ⟨e, rfl, he⟩ := h (by omega)
    -- The body is rendered with one more note open, and so with less room.
    have hbody : Follows c.references (c.opened ++ [Text.lowercase id])
        (Block.renderAll c.references _ 0 body) (Block.renderAll c.references e 0 body) :=
      (follows _ _).blocks (he _ hlt) 0 body
    obtain ⟨es, hes, ho', hd⟩ := hbody { c with opened := c.opened ++ [Text.lowercase id] } rfl rfl
    refine ⟨[⟨Text.lowercase id, c.opened ++ [Text.lowercase id], c.opened, es⟩], ?_,
      ho'.enter hk ho, ?_⟩
    · rw [expandNote_closed hn ho]
      simp [Context.enter?, ho, hes, Context.record, Context.exit]
    · simp only [Expansion.depth]
      omega

/-- **References expand alike** where the limit leaves room for every note that is not open. -/
theorem follows_expandNote (refs : References) (limit : Nat) (s : List String)
    (hroom : refs.room s ≤ limit) (id : String) :
    Follows refs s (Typeset.expandNote refs s id) (expandNote limit id) := by
  induction limit generalizing s id with
  | zero => exact follows_expandWith (fun h => absurd h (by omega)) id
  | succ limit ih =>
    exact follows_expandWith (fun _ => ⟨_, rfl, fun key hlt id => ih _ (by omega) id⟩) id

end Watched

/-! ## Every rendering ends -/

/-- The notes that blocks define, by their identifiers in lower case. -/
def Block.noteKeys (blocks : List Block) : List String :=
  blocks.filterMap fun
    | .footnoteDefinition identifier _ => some (Text.lowercase identifier)
    | _ => none

theorem References.noteKeys_ofBlocks (blocks : List Block) :
    (References.ofBlocks blocks).noteKeys = (Block.noteKeys blocks).reverse := by
  rw [noteKeys, notes_ofBlocks, List.map_reverse, List.map_filterMap, Block.noteKeys]
  congr 2
  funext b
  cases b <;> rfl

theorem References.mem_noteKeys_ofBlocks {blocks : List Block} {k : String} :
    k ∈ (References.ofBlocks blocks).noteKeys ↔ k ∈ Block.noteKeys blocks := by
  rw [noteKeys_ofBlocks, List.mem_reverse]

/-- There is room for no more notes than blocks define. -/
theorem References.room_ofBlocks_le (blocks : List Block) (s : List String) :
    (References.ofBlocks blocks).room s ≤ (Block.noteKeys blocks).dedup.length := by
  calc (References.ofBlocks blocks).room s
      ≤ (References.ofBlocks blocks).noteKeys.toFinset.card := Finset.card_filter_le _ _
    _ = (Block.noteKeys blocks).dedup.length := by
      rw [noteKeys_ofBlocks, List.toFinset_reverse, List.card_toFinset]

/-- From a context over the definitions in `blocks` a rendering ends, with the given value and
context. Each note that it expands is entered behind the notes of the context and behind others,
all distinct and defined in `blocks`; when it is left, they are on the stack and it is not. So
expansions nest no deeper than there are notes, and none lies in another of the same note. -/
def Watched.EndsWith {α : Type} (x : Watched α) (blocks : List Block) (c : Context)
    (result : α × Context) : Prop :=
  ∃ es : List Expansion,
    x c = some ⟨result.1, result.2, es⟩ ∧ result.2.opened = c.opened ∧
    (∀ e ∈ Expansion.all es, ∃ keys,
      e.opened = c.opened ++ keys ++ [e.key] ∧ e.left = c.opened ++ keys ∧ (keys ++ [e.key]).Nodup ∧
      ∀ k ∈ keys ++ [e.key], k ∉ c.opened ∧ k ∈ Block.noteKeys blocks) ∧
    Expansion.depth es ≤ (Block.noteKeys blocks).dedup.length ∧
    ∀ e ∈ Expansion.all es, e.key ∉ (Expansion.all e.inner).map (·.key)

theorem Watched.Follows.endsWith {α : Type} {blocks : List Block} {s : List String}
    {warnings : List Warning} {x : Logged α} {y : Watched α}
    (h : Follows (References.ofBlocks blocks) s x y) :
    y.EndsWith blocks ⟨References.ofBlocks blocks, s, warnings⟩
      (Context.record ⟨References.ofBlocks blocks, s, warnings⟩ x) := by
  obtain ⟨es, hy, ho, hd⟩ := h ⟨References.ofBlocks blocks, s, warnings⟩ rfl rfl
  refine ⟨es, hy, rfl, fun e he => ?_, hd.trans (References.room_ofBlocks_le blocks s), ho.apart⟩
  obtain ⟨keys, hl, hopen, hf⟩ := ho.stacked e he
  exact ⟨keys, hopen, hl, hf.nodup, fun k hk =>
    ⟨hf.closed k hk, References.mem_noteKeys_ofBlocks.1 (hf.defined k hk)⟩⟩

/-- **Rendering ends, and no note is expanded inside itself.** Whatever notes the blocks define,
whatever is on the stack, every block, inline and run of inlines is rendered where notes may nest
as deep as there are identifiers of notes, and a higher limit changes nothing. -/
theorem Context.notes_nest_apart (blocks : List Block) (s : List String) (warnings : List Warning)
    (extra : Nat) :
    let c : Context := ⟨References.ofBlocks blocks, s, warnings⟩
    let note := Watched.expandNote ((Block.noteKeys blocks).dedup.length + extra)
    (∀ b level, (Block.render c.references note level b).EndsWith blocks c (c.renderBlock b level)) ∧
    (∀ i, (Inline.render c.references note i).EndsWith blocks c (c.renderInline i)) ∧
    ∀ is, (Inline.renderAll c.references note is).EndsWith blocks c (c.renderInlines is) := by
  intro c note
  have hnote := Watched.follows_expandNote c.references
    ((Block.noteKeys blocks).dedup.length + extra) s
    ((References.room_ofBlocks_le blocks s).trans (Nat.le_add_right _ _))
  exact ⟨fun b level => ((Watched.follows _ s).block hnote level b).endsWith,
    fun i => ((Watched.follows _ s).inline hnote i).endsWith,
    fun is => ((Watched.follows _ s).inlines hnote is).endsWith⟩

end Typeset
