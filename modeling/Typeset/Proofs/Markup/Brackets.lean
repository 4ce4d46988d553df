/-
Brackets in markup.

A reader goes through markup from the left. A backslash protects the character
behind it; the calls of a link and of an image open a string literal, which
ends at its first quote that is not protected; and the brackets outside
literals that are not protected open and close. The reader stops at a bracket
that closes what was not opened.

Markup of which each part leaves a number of brackets open leaves the sum of
these open, whatever stands between the parts and however the lines are moved.
-/
import Mathlib.Data.List.Induction
import Typeset.Markup.Escape
import Typeset.Proofs.Text.Lines
import Typeset.Proofs.Text.Trimming

namespace Typeset.Markup

/-! ## The reader -/

/-- Where a reader of markup stands. -/
inductive Place where
  /-- In markup, behind characters that may go on to open a literal. -/
  | markup (opening : List Char)
  /-- Behind a backslash that protects the character that follows. -/
  | escape
  /-- Inside a literal. -/
  | literal
  /-- Inside a literal, behind a backslash that protects the character that follows. -/
  | literalEscape
  deriving DecidableEq

/-- What opens a literal. -/
def literalOpenings : List (List Char) := ["#link(\"".toList, "#image(\"".toList]

/-- The place behind a character of markup that neither protects nor is a bracket. -/
def Place.follow (opening : List Char) (c : Char) : Place :=
  if opening ++ [c] ∈ literalOpenings then .literal
  else if literalOpenings.any (opening ++ [c]).isPrefixOf then .markup (opening ++ [c])
  else if c = '#' then .markup ['#']
  else .markup []

/-- What a reader knows of the markup that it has read. -/
structure Reading where
  place : Place := .markup []
  /-- The number of brackets that are open. -/
  depth : Nat := 0
  deriving DecidableEq

/-- Reads a character, unless it closes what is not open. -/
def Reading.next? : Reading → Char → Option Reading
  | ⟨.markup opening, depth⟩, c =>
    if c = '\\' then some ⟨.escape, depth⟩
    else if c = '[' then some ⟨.markup [], depth + 1⟩
    else if c = ']' then if depth = 0 then none else some ⟨.markup [], depth - 1⟩
    else some ⟨.follow opening c, depth⟩
  | ⟨.escape, depth⟩, _ => some ⟨.markup [], depth⟩
  | ⟨.literal, depth⟩, c =>
    if c = '\\' then some ⟨.literalEscape, depth⟩
    else if c = '\"' then some ⟨.markup [], depth⟩
    else some ⟨.literal, depth⟩
  | ⟨.literalEscape, depth⟩, _ => some ⟨.literal, depth⟩

/-- Reads characters. -/
def Reading.through? (r : Reading) (cs : List Char) : Option Reading := cs.foldlM next? r

/-- Reads a whole text. -/
def scan (s : String) : Option Reading := ({} : Reading).through? s.toList

namespace Reading

@[simp] theorem through?_nil (r : Reading) : r.through? [] = some r := rfl

theorem through?_cons (r : Reading) (c : Char) (cs : List Char) :
    r.through? (c :: cs) = (r.next? c).bind (·.through? cs) := rfl

theorem through?_append (r : Reading) (cs cs' : List Char) :
    r.through? (cs ++ cs') = (r.through? cs).bind (·.through? cs') := List.foldlM_append

theorem through?_eq_self {r : Reading} {cs : List Char} (h : ∀ c ∈ cs, r.next? c = some r) :
    r.through? cs = some r := by
  induction cs with
  | nil => rfl
  | cons c cs ih =>
    rw [through?_cons, h c (by simp), Option.bind_some]
    exact ih fun c' hc' => h c' (by simp [hc'])

end Reading

/-! ## Brackets that stay open -/

/-- A text that leaves a number of brackets open and the reader behind it in markup. -/
def Leaves (n : Nat) (s : String) : Prop :=
  ∀ depth, (Reading.mk (.markup []) depth).through? s.toList = some ⟨.markup [], depth + n⟩

theorem Leaves.scan {n : Nat} {s : String} (h : Leaves n s) :
    Markup.scan s = some ⟨.markup [], n⟩ := by
  simpa [Markup.scan] using h 0

theorem leaves_empty : Leaves 0 "" := fun _ => by simp

theorem Leaves.unique {n m : Nat} {s : String} (hn : Leaves n s) (hm : Leaves m s) : n = m := by
  simpa using (hn 0).symm.trans (hm 0)

theorem Leaves.append {n m : Nat} {s t : String} (hs : Leaves n s) (ht : Leaves m t) :
    Leaves (n + m) (s ++ t) := by
  intro depth
  rw [String.toList_append, Reading.through?_append, hs, Option.bind_some, ht, Nat.add_assoc]

/-- What stands in a pair of brackets. -/
theorem Leaves.within {n : Nat} {before s behind : String} (h : Leaves n s)
    (hbefore : Leaves 1 before)
    (hbehind : ∀ depth, (Reading.mk (.markup []) (depth + 1)).through? behind.toList =
      some ⟨.markup [], depth⟩) :
    Leaves n (before ++ s ++ behind) := by
  intro depth
  rw [String.toList_append, Reading.through?_append, hbefore.append h, Option.bind_some,
    show depth + (1 + n) = depth + n + 1 by omega, hbehind]

/-! ### Prose -/

theorem Reading.next?_of_not_special {c : Char} (h : isSpecial c = false) (depth : Nat) :
    next? ⟨.markup [], depth⟩ c = some ⟨.markup [], depth⟩ := by
  simp only [isSpecial, Bool.or_eq_false_iff, beq_eq_false_iff_ne] at h
  obtain ⟨⟨⟨⟨⟨⟨⟨hbackslash, hhash⟩, -⟩, -⟩, -⟩, hopen⟩, hclose⟩, -⟩ := h
  simp [next?, Place.follow, literalOpenings, List.isPrefixOf, hbackslash, hhash, hopen, hclose]

theorem leaves_of_not_special {s : String} (h : ∀ c ∈ s.toList, isSpecial c = false) :
    Leaves 0 s :=
  fun depth => Reading.through?_eq_self fun c hc => Reading.next?_of_not_special (h c hc) depth

theorem leaves_replicate {c : Char} (h : isSpecial c = false) (n : Nat) :
    Leaves 0 (Text.replicate n c) := by
  refine leaves_of_not_special fun c' hc' => ?_
  simp only [Text.replicate, String.toList_ofList, List.mem_replicate] at hc'
  exact hc'.2 ▸ h

/-- Prose opens and closes nothing. -/
theorem leaves_escapeText (s : String) : Leaves 0 (escapeText s) := by
  intro depth
  simp only [escapeText, String.toList_ofList, Nat.add_zero]
  induction s.toList with
  | nil => rfl
  | cons c cs ih =>
    have hc : (Reading.mk (.markup []) depth).through? (escapeChar c) =
        some ⟨.markup [], depth⟩ := by
      cases hs : isSpecial c with
      | true => simp [escapeChar, hs, Reading.through?_cons, Reading.next?]
      | false => simp [escapeChar, hs, Reading.through?_cons, Reading.next?_of_not_special hs]
    rw [List.flatMap_cons, Reading.through?_append, hc, Option.bind_some, ih]

/-! ### Literals -/

/-- A literal ends at its last quote, whatever its text is. -/
theorem through?_quote {opening : List Char} (h : Place.follow opening '\"' = .literal)
    (s : String) (depth : Nat) : (Reading.mk (.markup opening) depth).through? (quote s).toList =
      some ⟨.markup [], depth⟩ := by
  have hinside : ∀ cs : List Char, (Reading.mk .literal depth).through? (cs.flatMap literalChar) =
      some ⟨.literal, depth⟩ := by
    intro cs
    induction cs with
    | nil => rfl
    | cons c cs ih =>
      have hc : (Reading.mk .literal depth).through? (literalChar c) =
          some ⟨.literal, depth⟩ := by
        unfold literalChar
        by_cases hb : c = '\\'
        · simp [hb, Reading.through?_cons, Reading.next?]
        by_cases hq : c = '\"'
        · simp [hq, Reading.through?_cons, Reading.next?]
        by_cases hn : c = '\n'
        · simp [hn, Reading.through?_cons, Reading.next?]
        · simp [hb, hq, hn, Reading.through?_cons, Reading.next?]
      rw [List.flatMap_cons, Reading.through?_append, hc, Option.bind_some, ih]
  have hs : (quote s).toList = '\"' :: (s.toList.flatMap literalChar ++ ['\"']) := by
    simp [quote, escapeString]
  rw [hs, Reading.through?_cons]
  simp [Reading.next?, h, Reading.through?_append, hinside, Reading.through?_cons]

theorem leaves_quote (opening : String) (hfollow : Place.follow opening.toList '\"' = .literal)
    (hopening : ∀ depth, (Reading.mk (.markup []) depth).through? opening.toList =
      some ⟨.markup opening.toList, depth⟩) (s : String) : Leaves 0 (opening ++ quote s) := by
  intro depth
  rw [String.toList_append, Reading.through?_append, hopening, Option.bind_some,
    through?_quote hfollow, Nat.add_zero]

/-! ### Lines -/

/-- A character that no opening has breaks off what may open a literal. -/
theorem Place.follow_of_not_mem {c : Char} (h : ∀ l ∈ literalOpenings, c ∉ l)
    (opening : List Char) : follow opening c = .markup [] := by
  have hmem : opening ++ [c] ∉ literalOpenings := fun hl => h _ hl (by simp)
  have hany : literalOpenings.any (opening ++ [c]).isPrefixOf = false := by
    refine List.any_eq_false.2 fun l hl hp => h l hl ?_
    exact (List.isPrefixOf_iff_prefix.1 hp).subset (by simp)
  have hhash : c ≠ '#' := by
    rintro rfl
    exact h "#link(\"".toList (by simp [literalOpenings]) (by decide)
  simp [follow, hmem, hany, hhash]

theorem Reading.next?_space {r r' : Reading} (h : r.next? '\n' = some r') :
    r'.next? ' ' = some r' := by
  have hf (opening : List Char) : Place.follow opening '\n' = .markup [] :=
    Place.follow_of_not_mem (by decide) opening
  obtain ⟨place, depth⟩ := r
  cases place <;> simp [next?, hf] at h <;> subst h <;> rfl

/-- Moving the lines of a text leaves its reader in the same place. -/
theorem Reading.through?_lines (r : Reading) (level : Nat) (cs : List Char) :
    r.through? (cs.flatMap fun c => if c == '\n' then c :: Text.margin level else [c]) =
      r.through? cs := by
  induction cs generalizing r with
  | nil => rfl
  | cons c cs ih =>
    rw [List.flatMap_cons, through?_append, through?_cons]
    by_cases hc : c = '\n'
    · subst hc
      cases hr : r.next? '\n' with
      | none => simp [through?_cons, hr]
      | some r' =>
        have hmargin : r'.through? (Text.margin level) = some r' :=
          through?_eq_self fun c hc => List.eq_of_mem_replicate hc ▸ next?_space hr
        simpa [through?_cons, hr, hmargin] using ih r'
    · cases hr : r.next? c with
      | none => simp [hc, through?_cons, hr]
      | some r' => simpa [hc, through?_cons, hr] using ih r'

/-- In markup, lines that are moved are read as before. -/
theorem through?_indent (depth level : Nat) (s : String) :
    (Reading.mk (.markup []) depth).through? (Text.indent level s).toList =
      (Reading.mk (.markup []) depth).through? s.toList := by
  have hmargin : (Reading.mk (.markup []) depth).through? (Text.margin level) =
      some ⟨.markup [], depth⟩ :=
    Reading.through?_eq_self fun c hc => List.eq_of_mem_replicate hc ▸ rfl
  rw [Text.indent, String.toList_ofList, Text.shift, Reading.through?_append, hmargin,
    Option.bind_some, Reading.through?_lines]

theorem Leaves.indent {n : Nat} {s : String} (h : Leaves n s) (level : Nat) :
    Leaves n (Text.indent level s) :=
  fun depth => (through?_indent depth level s).trans (h depth)

/-! ### Parts -/

/-- Texts that leave a number of brackets open, all of them together. -/
inductive LeaveAll : Nat → List String → Prop
  | nil : LeaveAll 0 []
  | cons {n m : Nat} {s : String} {rest : List String} :
      Leaves n s → LeaveAll m rest → LeaveAll (n + m) (s :: rest)

namespace LeaveAll

variable {n m : Nat} {parts parts' : List String}

theorem append (h : LeaveAll n parts) (h' : LeaveAll m parts') :
    LeaveAll (n + m) (parts ++ parts') := by
  induction h with
  | nil => simpa
  | cons hs _ ih => exact Nat.add_assoc .. ▸ cons hs ih

theorem map (h : LeaveAll n parts) {f : String → String}
    (hf : ∀ {n s}, Leaves n s → Leaves n (f s)) : LeaveAll n (parts.map f) := by
  induction h with
  | nil => exact nil
  | cons hs _ ih => exact cons (hf hs) ih

theorem filter (h : LeaveAll n parts) : LeaveAll n (parts.filter (!·.isEmpty)) := by
  induction h with
  | nil => exact nil
  | @cons n m s rest hs _ ih =>
    by_cases he : s = ""
    · subst he
      obtain rfl := hs.unique leaves_empty
      simpa using ih
    · simpa [he] using cons hs ih

theorem ofOption {part : Option String} (h : Leaves n (part.getD "")) :
    LeaveAll n (part.toList.filter (!·.isEmpty)) := by
  cases part with
  | none => exact h.unique leaves_empty ▸ nil
  | some s => exact (cons h nil).filter

theorem joinWith {separator : String} (hsep : Leaves 0 separator) (h : LeaveAll n parts) :
    Leaves n (Text.joinWith separator parts) := by
  induction h with
  | nil => exact leaves_empty
  | @cons n m s rest hs hrest ih =>
    cases hrest with
    | nil => simpa [Text.joinWith] using hs
    | cons => exact Nat.add_zero n ▸ (hs.append hsep).append ih

theorem joinNonEmpty {separator : String} {parts : List (Option String)}
    (hsep : Leaves 0 separator) (h : LeaveAll n (parts.map (·.getD ""))) :
    Leaves n (Text.joinNonEmpty separator parts) := by
  rw [Text.joinNonEmpty_eq]
  exact h.filter.joinWith hsep

theorem of_forall (h : ∀ s ∈ parts, Leaves 0 s) : LeaveAll 0 parts := by
  induction parts with
  | nil => exact nil
  | cons s rest ih => exact cons (h s (by simp)) (ih fun s' hs' => h s' (by simp [hs']))

end LeaveAll

/-! ### Blank characters -/

theorem not_special_of_isBlank {c : Char} (h : Text.isBlank c = true) : isSpecial c = false := by
  by_contra hs
  simp only [isSpecial, Bool.not_eq_false, Bool.or_eq_true, beq_iff_eq] at hs
  obtain ((((((rfl | rfl) | rfl) | rfl) | rfl) | rfl) | rfl) | rfl := hs <;>
    exact absurd h (by decide)

theorem Leaves.eq_zero_of_isBlankText {n : Nat} {s : String} (h : Leaves n s)
    (hb : Text.isBlankText s = true) : n = 0 :=
  h.unique (leaves_of_not_special fun c hc =>
    not_special_of_isBlank (List.all_eq_true.1 hb c hc))

theorem through?_blanks {cs : List Char} (h : cs.all Text.isBlank = true) (depth : Nat) :
    (Reading.mk (.markup []) depth).through? cs = some ⟨.markup [], depth⟩ :=
  Reading.through?_eq_self fun c hc =>
    Reading.next?_of_not_special (not_special_of_isBlank (List.all_eq_true.1 h c hc)) depth

/-- A reader who is in markup behind blank characters was in markup before them, or behind a
backslash. -/
theorem Reading.before_blanks {r : Reading} {cs : List Char} {opening : List Char} {depth : Nat}
    (hb : cs.all Text.isBlank = true) (h : r.through? cs = some ⟨.markup opening, depth⟩) :
    r.depth = depth ∧ (r.place = .escape ∨ ∃ opening, r.place = .markup opening) := by
  induction cs generalizing r with
  | nil =>
    cases h
    exact ⟨rfl, .inr ⟨_, rfl⟩⟩
  | cons c cs ih =>
    obtain ⟨hc, hb⟩ : Text.isBlank c = true ∧ cs.all Text.isBlank = true := by simpa using hb
    have hne {c' : Char} (h' : Text.isBlank c' = false) : c ≠ c' := by
      rintro rfl
      simp [hc] at h'
    have hbackslash : c ≠ '\\' := hne (by decide)
    have hopen : c ≠ '[' := hne (by decide)
    have hclose : c ≠ ']' := hne (by decide)
    have hquote : c ≠ '\"' := hne (by decide)
    obtain ⟨place, depth'⟩ := r
    rw [through?_cons] at h
    -- A literal does not end in blank characters.
    cases place with
    | markup opening =>
      simp only [next?, hbackslash, hopen, hclose, if_false, Option.bind_some] at h
      exact ⟨(ih hb h).1, .inr ⟨opening, rfl⟩⟩
    | escape => exact ⟨(ih hb h).1, .inl rfl⟩
    | literal =>
      simp only [next?, hbackslash, hquote, if_false, Option.bind_some] at h
      simpa using (ih hb h).2
    | literalEscape => simpa using (ih hb (r := ⟨.literal, depth'⟩) h).2

/-! ### Backslashes at the end -/

/-- A text that ends in a backslash which protects what comes behind it. -/
def endsProtecting (s : String) : Bool :=
  (s.toList.reverse.takeWhile (· == '\\')).length % 2 == 1

/-- Characters that end in a backslash which protects what comes behind them. -/
def protecting (cs : List Char) : Bool := endsProtecting (String.ofList cs)

@[simp] theorem protecting_nil : protecting [] = false := rfl

/-- A backslash protects unless it is protected itself. -/
theorem protecting_concat (cs : List Char) (c : Char) :
    protecting (cs ++ [c]) = (c == '\\' && !protecting cs) := by
  simp only [protecting, endsProtecting, String.toList_ofList, List.reverse_append]
  by_cases hc : c = '\\'
  · have hlength : (([c].reverse ++ cs.reverse).takeWhile (· == '\\')).length =
        (cs.reverse.takeWhile (· == '\\')).length + 1 := by
      simp [hc]
    rw [hlength]
    obtain hmod | hmod := Nat.mod_two_eq_zero_or_one (cs.reverse.takeWhile (· == '\\')).length <;>
      simp [hc, Nat.add_mod, hmod]
  · simp [hc]

/-- A place behind a backslash that protects. -/
def Place.isProtecting : Place → Bool
  | .escape | .literalEscape => true
  | .markup _ | .literal => false

/-- A reader comes to protect behind a backslash, unless that is protected itself. -/
theorem Reading.isProtecting_next? {r r' : Reading} {c : Char} (h : r.next? c = some r') :
    r'.place.isProtecting = (c == '\\' && !r.place.isProtecting) := by
  have hf (opening : List Char) : (Place.follow opening c).isProtecting = false := by
    unfold Place.follow
    split_ifs <;> rfl
  obtain ⟨place, depth⟩ := r
  cases place <;> simp only [next?] at h
  case markup opening =>
    split_ifs at h <;> cases h <;> simp_all [Place.isProtecting]
  case escape =>
    cases h
    simp [Place.isProtecting]
  case literal =>
    split_ifs at h <;> cases h <;> simp_all [Place.isProtecting]
  case literalEscape =>
    cases h
    simp [Place.isProtecting]

theorem Reading.isProtecting_through? {r r' : Reading} {cs : List Char}
    (hr : r.place.isProtecting = false) (h : r.through? cs = some r') :
    r'.place.isProtecting = protecting cs := by
  induction cs using List.reverseRecOn generalizing r' with
  | nil =>
    cases h
    exact hr
  | append_singleton cs c ih =>
    rw [through?_append] at h
    obtain ⟨r₁, h₁, h⟩ := Option.bind_eq_some_iff.1 h
    rw [through?_cons] at h
    obtain ⟨r₂, h₂, h⟩ := Option.bind_eq_some_iff.1 h
    cases h
    rw [isProtecting_next? h₂, ih h₁, protecting_concat]

/-! ### Trimmed texts -/

/-- Where trimming ends a text, the reader is in markup, unless a backslash has lost what it
protects. -/
theorem Leaves.trimBlanks {n : Nat} {s : String} (h : Leaves n s) (depth : Nat) :
    ∃ place, (Reading.mk (.markup []) depth).through? (Text.trimBlanks s).toList =
        some ⟨place, depth + n⟩ ∧
      (endsProtecting (Text.trimBlanks s) = true ∧ place = .escape ∨
        endsProtecting (Text.trimBlanks s) = false ∧ ∃ opening, place = .markup opening) := by
  obtain ⟨lead, trail, hs, hlead, htrail⟩ := Text.exists_stripBoth Text.isBlank s.toList
  have h := h depth
  rw [hs, Reading.through?_append, through?_blanks hlead, Option.bind_some,
    Reading.through?_append] at h
  obtain ⟨⟨place, depth'⟩, hplace, h⟩ := Option.bind_eq_some_iff.1 h
  rw [← Text.toList_trimBlanks] at hplace
  obtain ⟨rfl, hor⟩ := Reading.before_blanks htrail h
  have hends : place.isProtecting = endsProtecting (Text.trimBlanks s) := by
    rw [Reading.isProtecting_through? rfl hplace, protecting, String.ofList_toList]
  refine ⟨place, hplace, ?_⟩
  rw [← hends]
  obtain rfl | ⟨opening, rfl⟩ := hor
  · exact .inl ⟨rfl, rfl⟩
  · exact .inr ⟨rfl, opening, rfl⟩

end Typeset.Markup
