/-
Fenced code.

A fence is longer than every run of back quotes in the code between its two
lines, so no code closes its block. The tag stands behind the first fence, and
the fence was not chosen for it: a tag that begins with a back quote makes the
fence longer, one that holds a fence ends it early, and one of several lines is
cut off. Code reads back exactly where the tag is none of these.
-/
import Mathlib.Data.List.Infix
import Mathlib.Order.Bounds.Defs
import Typeset.Proofs.Text.Lines
import Typeset.Render.Context

namespace Typeset

namespace Markup

/-! ## Runs of back quotes -/

/-- A number of back quotes. -/
def backquotes (n : Nat) : List Char := List.replicate n '\x60'

theorem append_cons_eq_iff {c : Char} {word as bs before after : List Char} (h : c ∉ word) :
    as ++ c :: bs = before ++ (word ++ after) ↔
      (∃ rest, as = before ++ (word ++ rest) ∧ after = rest ++ c :: bs) ∨
      ∃ front, before = as ++ c :: front ∧ bs = front ++ (word ++ after) := by
  constructor
  · intro he
    obtain ⟨front, rfl, hfront⟩ | ⟨rest, rfl, hrest⟩ := List.append_eq_append_iff.1 he
    · cases front with
      | nil =>
        -- The character itself comes first, so there is no word in front of it.
        cases word with
        | nil => exact .inl ⟨[], by simp, by simpa using hfront.symm⟩
        | cons d word =>
          obtain ⟨rfl, -⟩ := List.cons.inj hfront
          simp at h
      | cons d front =>
        obtain ⟨rfl, rfl⟩ := List.cons.inj hfront
        exact .inr ⟨front, rfl, rfl⟩
    · obtain ⟨more, rfl, hmore⟩ | ⟨more, rfl, hmore⟩ := List.append_eq_append_iff.1 hrest
      · exact .inl ⟨more, rfl, hmore⟩
      · cases more with
        | nil => exact .inl ⟨[], by simp, hmore.symm⟩
        | cons d more =>
          obtain ⟨rfl, -⟩ := List.cons.inj hmore
          simp at h
  · rintro (⟨rest, rfl, rfl⟩ | ⟨front, rfl, rfl⟩) <;> simp

theorem infix_append_cons_iff {c : Char} {word as bs : List Char} (h : c ∉ word) :
    word <:+: as ++ c :: bs ↔ word <:+: as ∨ word <:+: bs := by
  constructor
  · rintro ⟨before, after, he⟩
    rw [List.append_assoc] at he
    obtain ⟨rest, rfl, -⟩ | ⟨front, -, rfl⟩ := (append_cons_eq_iff h).1 he.symm
    · exact .inl (List.infix_append' _ _ _)
    · exact .inr (List.infix_append' _ _ _)
  · rintro (h | h)
    · exact List.infix_append_of_infix_left h
    · exact List.infix_append_of_infix_right (List.infix_cons h)

theorem not_mem_backquotes {c : Char} (h : c ≠ '\x60') (n : Nat) : c ∉ backquotes n :=
  fun hm => h (List.eq_of_mem_replicate hm)

theorem backquotes_infix_backquotes {m n : Nat} : backquotes m <:+: backquotes n ↔ m ≤ n := by
  simp [backquotes, List.infix_replicate_iff]

/-- The search for the longest run knows the run that ends where it stands, and a length that it
has found: whatever it finds is one of these or a run in what it has still to read. -/
theorem le_longestRun_iff {run longest : Nat} (h : run ≤ longest) (n : Nat) (cs : List Char) :
    n ≤ longestRun run longest cs ↔ n ≤ longest ∨ backquotes n <:+: backquotes run ++ cs := by
  induction cs generalizing run longest with
  | nil =>
    rw [longestRun, List.append_nil, backquotes_infix_backquotes]
    omega
  | cons c cs ih =>
    rw [longestRun]
    split
    · rename_i hc
      obtain rfl : c = '\x60' := by simpa using hc
      have hgrow : backquotes run ++ '\x60' :: cs = backquotes (run + 1) ++ cs := by
        simp [backquotes, List.replicate_succ']
      have hnew : n ≤ run + 1 → backquotes n <:+: backquotes (run + 1) ++ cs :=
        fun hn => List.infix_append_of_infix_left (backquotes_infix_backquotes.2 hn)
      rw [ih (Nat.le_max_right longest (run + 1)), hgrow]
      constructor
      · rintro (hn | hn)
        · by_cases hle : n ≤ longest
          · exact .inl hle
          · exact .inr (hnew (by omega))
        · exact .inr hn
      · rintro (hn | hn)
        · exact .inl (by omega)
        · exact .inr hn
    · rename_i hc
      have hne : c ≠ '\x60' := by simpa using hc
      rw [ih (Nat.zero_le longest), infix_append_cons_iff (not_mem_backquotes hne n),
        backquotes_infix_backquotes]
      simp only [backquotes, List.replicate_zero, List.nil_append]
      constructor
      · rintro (hn | hn)
        · exact .inl hn
        · exact .inr (.inr hn)
      · rintro (hn | hn | hn)
        · exact .inl hn
        · exact .inl (by omega)
        · exact .inr hn

/-- **The longest run** is no shorter than a number exactly if that many back quotes occur. -/
theorem backquotes_infix_iff {n : Nat} {cs : List Char} :
    backquotes n <:+: cs ↔ n ≤ longestRun 0 0 cs := by
  rw [le_longestRun_iff (Nat.le_refl 0)]
  cases n with
  | zero => simp [backquotes]
  | succ n => simp [backquotes]

/-- The number of back quotes in the fence of a value. -/
def fenceLength (value : String) : Nat := max (longestRun 0 0 value.toList + 1) 3

theorem toList_codeFence (value : String) :
    (codeFence value).toList = backquotes (fenceLength value) := by
  rw [codeFence, Text.replicate, String.toList_ofList]
  rfl

theorem length_codeFence (value : String) : (codeFence value).length = fenceLength value := by
  rw [← String.length_toList, toList_codeFence, backquotes, List.length_replicate]

theorem not_infix_codeFence (value : String) :
    ¬ backquotes (fenceLength value) <:+: value.toList := by
  rw [backquotes_infix_iff, fenceLength]
  omega

/-- The search finds the length of a run, and no run is longer. -/
theorem isGreatest_longestRun (cs : List Char) :
    IsGreatest {n | ∃ run, run <:+: cs ∧ (∀ c ∈ run, c = '\x60') ∧ run.length = n}
      (longestRun 0 0 cs) := by
  constructor
  · refine ⟨backquotes (longestRun 0 0 cs), backquotes_infix_iff.2 (Nat.le_refl _), ?_, ?_⟩
    · exact fun c hc => List.eq_of_mem_replicate hc
    · exact List.length_replicate
  · rintro n ⟨run, hrun, hall, rfl⟩
    rw [List.eq_replicate_of_mem hall] at hrun
    exact backquotes_infix_iff.1 hrun

/-- The lengths of the runs that a value does not hold begin behind its longest run. -/
theorem isLeast_fenceLength (value : String) :
    IsLeast {n | 3 ≤ n ∧ ¬ backquotes n <:+: value.toList} (fenceLength value) := by
  refine ⟨⟨Nat.le_max_right .., not_infix_codeFence value⟩, fun n ⟨hthree, hn⟩ => ?_⟩
  rw [backquotes_infix_iff] at hn
  exact Nat.max_le.2 ⟨by omega, hthree⟩

/-- **The fence is the shortest that is safe.** It consists of back quotes only, one more than the
longest run of them in the value, but at least three. It does not occur in the value, and of all
runs of three back quotes or more that do not, it is the shortest. -/
theorem codeFence_shortest (value : String) :
    (∀ c ∈ (codeFence value).toList, c = '\x60') ∧
    (∃ longest, IsGreatest
        {n | ∃ run, run <:+: value.toList ∧ (∀ c ∈ run, c = '\x60') ∧ run.length = n} longest ∧
      (codeFence value).length = max 3 (longest + 1)) ∧
    ¬ (codeFence value).toList <:+: value.toList ∧
    IsLeast {n | 3 ≤ n ∧ ¬ List.replicate n '\x60' <:+: value.toList}
      (codeFence value).length := by
  rw [toList_codeFence, length_codeFence]
  refine ⟨fun c hc => List.eq_of_mem_replicate hc, ?_, not_infix_codeFence value,
    isLeast_fenceLength value⟩
  exact ⟨_, isGreatest_longestRun value.toList, Nat.max_comm ..⟩

/-! ## Reading code back -/

/-- The back quotes that a text begins with, all of them. -/
def openingFence (s : String) : List Char := s.toList.takeWhile (· == '\x60')

/-- A text that reads as a block of code with a tag and a value. -/
structure ReadsAsCode (s tag value : String) : Prop where
  long : 3 ≤ (openingFence s).length
  /-- The fence occurs at the start and as the whole last line, and nowhere else. -/
  alone : ∀ before after, s.toList = before ++ (openingFence s ++ after) →
    before = [] ∨ ['\n'] <:+ before ∧ after = []
  /-- The tag stands behind the first fence, and the value on the lines between the two. -/
  lines : ∃ inner, Text.lines s = (openingFence s ++ tag.toList) :: (inner ++ [openingFence s]) ∧
    ['\n'].intercalate inner = value.toList

/-- A tag that leaves the fence of a value as it is: one line that neither begins with a back quote
nor holds the fence. -/
structure LeavesFence (tag value : String) : Prop where
  line : '\n' ∉ tag.toList
  start : tag.toList.head? ≠ some '\x60'
  run : ¬ backquotes (fenceLength value) <:+: tag.toList

theorem openingFence_append {s : String} {n : Nat} {tag rest : List Char}
    (h : s.toList = backquotes n ++ tag ++ '\n' :: rest) :
    openingFence s = backquotes n ++ tag.takeWhile (· == '\x60') := by
  have hfence : ∀ c ∈ backquotes n, (c == '\x60') = true :=
    fun c hc => by simpa using List.eq_of_mem_replicate hc
  rw [openingFence, h, List.append_assoc, List.takeWhile_append_of_pos hfence,
    List.takeWhile_append]
  split
  · rename_i hall
    have htag := (List.takeWhile_prefix (l := tag) (· == '\x60')).eq_of_length hall
    simp [htag]
  · rfl

/-- A fence in front of a tag that does not make it longer occurs there only once more if it occurs
in the tag. -/
theorem eq_nil_of_backquotes_append {n : Nat} {tag before rest : List Char}
    (hstart : tag.head? ≠ some '\x60') (hrun : ¬ backquotes n <:+: tag)
    (h : backquotes n ++ tag = before ++ (backquotes n ++ rest)) : before = [] := by
  by_contra hbefore
  obtain ⟨front, rfl, htag⟩ | ⟨more, hmore, hrest⟩ := List.append_eq_append_iff.1 h
  · exact hrun (htag ▸ List.infix_append' _ _ _)
  · -- The second fence ends further on than the first, so a back quote of it begins the tag.
    have hlength : n = before.length + more.length := by
      simpa [backquotes] using congrArg List.length hmore
    have hpos : 0 < before.length := List.length_pos_iff.2 hbefore
    have hlt : more.length < n := by omega
    have hbackquote : (backquotes n)[more.length]? = some '\x60' :=
      List.getElem?_replicate_of_lt hlt
    have hhead := congrArg (·[more.length]?) hrest
    rw [List.getElem?_append_left (by simpa [backquotes] using hlt), hbackquote,
      List.getElem?_append_right (Nat.le_refl _), Nat.sub_self, ← List.head?_eq_getElem?] at hhead
    exact hstart hhead.symm

theorem takeWhile_backquote_eq_nil_iff {cs : List Char} :
    cs.takeWhile (· == '\x60') = [] ↔ cs.head? ≠ some '\x60' := by
  cases cs with
  | nil => simp
  | cons c cs => by_cases hc : c = '\x60' <;> simp [hc]

section

variable {s tag value : String}

/-- The tag behind the first fence, the lines of the value, and the fence again. -/
def IsFenced (s tag value : String) : Prop :=
  s.toList = backquotes (fenceLength value) ++ tag.toList ++
    '\n' :: (value.toList ++ '\n' :: backquotes (fenceLength value))

theorem IsFenced.lines (h : IsFenced s tag value) :
    Text.lines s = (backquotes (fenceLength value) ++ tag.toList).splitOn '\n' ++
      (value.toList.splitOn '\n' ++ [backquotes (fenceLength value)]) := by
  have hfence := not_mem_backquotes (c := '\n') (by decide) (fenceLength value)
  rw [Text.lines, h, List.splitOn_append_cons_self, List.splitOn_append_cons_self,
    List.splitOn_eq_singleton hfence]

/-- Where code reads back, its tag leaves the fence as it is. -/
theorem ReadsAsCode.leavesFence (h : IsFenced s tag value) (hread : ReadsAsCode s tag value) :
    LeavesFence tag value := by
  obtain ⟨hlong, halone, inner, hlines, -⟩ := hread
  have hopening := openingFence_append h
  obtain ⟨first, more, hfirst⟩ := List.exists_cons_of_ne_nil
    (List.splitOn_ne_nil '\n' (backquotes (fenceLength value) ++ tag.toList))
  rw [h.lines, hfirst, List.cons_append] at hlines
  obtain ⟨rfl, -⟩ := List.cons.inj hlines
  -- The first line has no room for more back quotes than those of the fence.
  have hno : tag.toList.takeWhile (· == '\x60') = [] := by
    have hle := (Text.prefix_of_splitOn_eq_cons hfirst).length_le
    rw [hopening] at hle
    simp only [List.length_append] at hle
    exact List.length_eq_zero_iff.1 (by omega)
  rw [hno, List.append_nil] at hopening
  rw [hopening] at hlong halone hfirst
  refine ⟨?_, takeWhile_backquote_eq_nil_iff.1 hno, ?_⟩
  · have hmem := hfirst ▸ List.mem_cons_self (a := backquotes (fenceLength value) ++ tag.toList)
    exact fun hm => Text.not_mem_of_mem_splitOn hmem (List.mem_append_right _ hm)
  · rintro ⟨before, after, htag⟩
    have hplace := halone (backquotes (fenceLength value) ++ before)
      (after ++ '\n' :: (value.toList ++ '\n' :: backquotes (fenceLength value)))
      (by rw [h, ← htag]; simp only [List.append_assoc])
    obtain hnil | ⟨-, hnil⟩ := hplace
    · have hlength := congrArg List.length hnil
      rw [List.length_append, List.length_nil] at hlength
      omega
    · simp at hnil

/-- Behind a tag that leaves the fence as it is, code reads back. -/
theorem LeavesFence.readsAsCode (h : IsFenced s tag value) (htag : LeavesFence tag value) :
    ReadsAsCode s tag value := by
  obtain ⟨hline, hstart, hrun⟩ := htag
  have hfence := not_mem_backquotes (c := '\n') (by decide) (fenceLength value)
  have hopening : openingFence s = backquotes (fenceLength value) := by
    rw [openingFence_append h, takeWhile_backquote_eq_nil_iff.2 hstart, List.append_nil]
  refine ⟨?_, ?_, ?_⟩
  · rw [hopening, backquotes, List.length_replicate]
    exact Nat.le_max_right ..
  · intro before after hs
    rw [hopening, h] at hs
    -- A fence stands on one line: the first, one of the value's, or the last.
    obtain ⟨rest, hfirst, -⟩ | ⟨front, rfl, hrest⟩ := (append_cons_eq_iff hfence).1 hs
    · exact .inl (eq_nil_of_backquotes_append hstart hrun hfirst)
    obtain ⟨rest, hvalue, -⟩ | ⟨front, rfl, hlast⟩ := (append_cons_eq_iff hfence).1 hrest
    · exact absurd (hvalue ▸ List.infix_append' _ _ _) (not_infix_codeFence value)
    · have hlength := congrArg List.length hlast
      simp only [List.length_append] at hlength
      obtain rfl : front = [] := List.length_eq_zero_iff.1 (by omega)
      obtain rfl : after = [] := List.length_eq_zero_iff.1 (by omega)
      exact .inr ⟨⟨backquotes (fenceLength value) ++ tag.toList ++ '\n' :: value.toList,
        by simp⟩, rfl⟩
  · rw [h.lines, hopening, List.splitOn_eq_singleton (List.not_mem_append hfence hline)]
    exact ⟨_, rfl, List.intercalate_splitOn '\n'⟩

end

/-! ## Blocks of code -/

theorem dropFinalNewline_cases (s : String) :
    s = dropFinalNewline s ++ "\n" ∨ dropFinalNewline s = s ∧ ¬ ['\n'] <:+ s.toList := by
  unfold dropFinalNewline
  split
  · rename_i h
    obtain ⟨front, hs⟩ := List.getLast?_eq_some_iff.1 (beq_iff_eq.1 h)
    refine .inl (String.toList_injective ?_)
    simp [hs]
  · rename_i h
    refine .inr ⟨rfl, ?_⟩
    rintro ⟨front, hs⟩
    rw [← hs] at h
    simp at h

/-- The text of a block of code before its lines are moved. -/
def fenced (lang : Option String) (value : String) : String :=
  codeFence (dropFinalNewline value) ++ Text.trimBlanks (lang.getD "") ++ "\n" ++
    (dropFinalNewline value ++ "\n" ++ codeFence (dropFinalNewline value))

theorem codeBlock_eq (lang : Option String) (value : String) (level : Nat) :
    codeBlock lang value level = Text.indent level (fenced lang value) := by
  rw [fenced, Text.indent_append_newline, Text.indent_append_newline]
  rfl

theorem isFenced_fenced (lang : Option String) (value : String) :
    IsFenced (fenced lang value) (Text.trimBlanks (lang.getD "")) (dropFinalNewline value) := by
  rw [IsFenced, fenced]
  simp only [String.toList_append, toList_codeFence, List.append_assoc]
  rfl

end Markup

namespace Context

/-- **A block of code reads back exactly if its tag leaves the fence as it is,** at every level,
whatever its value is: the fence, then the trimmed tag, the lines of the value without one line feed
at its end, and the fence as the last line, which occurs nowhere else. -/
theorem code_reads_back_iff (c : Context) (lang : Option String) (value : String) (level : Nat) :
    let tag := Text.trimBlanks (lang.getD "")
    let code := Markup.dropFinalNewline value
    (value = code ++ "\n" ∨ code = value ∧ ¬ ['\n'] <:+ value.toList) ∧
    ∃ out, (c.renderBlock (.codeBlock lang value) level).1 = some out ∧
      (∀ line ∈ Text.lines out, Text.margin level <+: line) ∧
      (Markup.ReadsAsCode (Text.outdent level out) tag code ↔ Markup.LeavesFence tag code) := by
  intro tag code
  have hfenced := Markup.isFenced_fenced lang value
  have hout := Markup.codeBlock_eq lang value level
  refine ⟨Markup.dropFinalNewline_cases value, _, rfl, fun line hline => ?_, ?_⟩
  · rw [hout] at hline
    exact Text.margin_prefix_of_mem_lines hline
  · rw [hout, Text.outdent_indent]
    exact ⟨Markup.ReadsAsCode.leavesFence hfenced, Markup.LeavesFence.readsAsCode hfenced⟩

/-- **A tag can close its own fence.** -/
theorem tag_closes_fence :
    let c : Context := {}
    (c.renderBlock (.codeBlock (some "a\x60\x60\x60b") "x") 0).1 =
      some "\x60\x60\x60a\x60\x60\x60b\nx\n\x60\x60\x60" ∧
    ¬ Markup.ReadsAsCode "\x60\x60\x60a\x60\x60\x60b\nx\n\x60\x60\x60" "a\x60\x60\x60b" "x" := by
  refine ⟨by decide +kernel, fun h => ?_⟩
  have hplace := h.alone "\x60\x60\x60a".toList "b\nx\n\x60\x60\x60".toList (by decide +kernel)
  revert hplace
  decide

end Context

end Typeset
