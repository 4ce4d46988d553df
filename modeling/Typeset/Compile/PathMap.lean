/-
Maps from paths to what is registered there, in ascending order of the paths.

Paths are ordered by code point, which is the order of their bytes. The order
is part of the type, so two maps with the same entries are equal.
-/

namespace Typeset.Compile

theorem mem_of_lookup {κ α : Type} [BEq κ] [LawfulBEq κ] {key : κ} {a : α} {es : List (κ × α)}
    (h : es.lookup key = some a) : (key, a) ∈ es := by
  obtain ⟨before, behind, hsplit, -⟩ := List.lookup_eq_some_iff.1 h
  rw [hsplit]
  exact List.mem_append_right _ List.mem_cons_self

/-- Entries with their paths in strictly ascending order. -/
structure PathMap (α : Type) where
  entries : List (String × α)
  sorted : entries.Pairwise fun a b => a.1 < b.1

namespace PathMap

variable {α : Type}

@[ext] theorem ext {m n : PathMap α} (h : m.entries = n.entries) : m = n := by
  cases m; cases n; simp_all

instance : EmptyCollection (PathMap α) := ⟨⟨[], .nil⟩⟩

instance : Inhabited (PathMap α) := ⟨∅⟩

/-- Entries with one more in its place; an entry at the same path gives way. -/
def insertEntry (path : String) (a : α) : List (String × α) → List (String × α)
  | [] => [(path, a)]
  | e :: es =>
    if path < e.1 then (path, a) :: e :: es
    else if path = e.1 then (path, a) :: es
    else e :: insertEntry path a es

theorem mem_insertEntry {path : String} {a : α} {es : List (String × α)} {e : String × α}
    (h : e ∈ insertEntry path a es) : e = (path, a) ∨ e ∈ es := by
  induction es with
  | nil => simpa [insertEntry] using h
  | cons d es ih =>
    simp only [insertEntry] at h
    split at h
    · simpa using h
    · split at h
      · rcases List.mem_cons.1 h with h | h
        · exact .inl h
        · exact .inr (List.mem_cons_of_mem _ h)
      · rcases List.mem_cons.1 h with h | h
        · exact .inr (h ▸ List.mem_cons_self)
        · exact (ih h).imp id (List.mem_cons_of_mem _)

theorem sorted_insertEntry (path : String) (a : α) {es : List (String × α)}
    (h : es.Pairwise fun a b => a.1 < b.1) :
    (insertEntry path a es).Pairwise fun a b => a.1 < b.1 := by
  induction es with
  | nil => simp [insertEntry]
  | cons d es ih =>
    obtain ⟨hd, hs⟩ := List.pairwise_cons.1 h
    simp only [insertEntry]
    split
    · rename_i hlt
      refine List.pairwise_cons.2 ⟨fun e he => ?_, h⟩
      rcases List.mem_cons.1 he with rfl | he
      · exact hlt
      · exact String.lt_trans hlt (hd e he)
    · split
      · rename_i heq
        exact List.pairwise_cons.2 ⟨fun e he => heq ▸ hd e he, hs⟩
      · rename_i hlt hne
        refine List.pairwise_cons.2 ⟨fun e he => ?_, ih hs⟩
        rcases mem_insertEntry he with rfl | he
        · exact Std.lt_of_le_of_ne (Std.not_lt.1 hlt) fun h => hne h.symm
        · exact hd e he

/-- The map with a path set. -/
def insert (m : PathMap α) (path : String) (a : α) : PathMap α :=
  ⟨insertEntry path a m.entries, sorted_insertEntry path a m.sorted⟩

/-- What is registered at a path. -/
def get? (m : PathMap α) (path : String) : Option α := m.entries.lookup path

/-- The map of entries that are set one after another. -/
def ofList (es : List (String × α)) : PathMap α := es.foldl (fun m e => m.insert e.1 e.2) ∅

/-- The first map with every entry of the second set. -/
def overlay (m n : PathMap α) : PathMap α := n.entries.foldl (fun m e => m.insert e.1 e.2) m

def isEmpty (m : PathMap α) : Bool := m.entries.isEmpty

/-- The paths in ascending order. -/
def paths (m : PathMap α) : List String := m.entries.map (·.1)

/-! ## Looking up -/

@[simp] theorem get?_empty (path : String) : (∅ : PathMap α).get? path = none := rfl

theorem lookup_cons (e : String × α) (es : List (String × α)) (q : String) :
    (e :: es).lookup q = if q = e.1 then some e.2 else es.lookup q := by
  rw [List.lookup_cons]
  by_cases hq : q = e.1
  · simp [hq]
  · have hne : (q == e.1) = false := by simpa using hq
    rw [hne, if_neg hq]

theorem lookup_insertEntry (path q : String) (a : α) (es : List (String × α)) :
    (insertEntry path a es).lookup q = if q = path then some a else es.lookup q := by
  induction es with
  | nil => rw [insertEntry, lookup_cons]
  | cons e es ih =>
    simp only [insertEntry]
    split
    · rw [lookup_cons]
    · split
      · rename_i hpath
        rw [lookup_cons, lookup_cons]
        by_cases hq : q = path <;> simp [hq, ← hpath]
      · rename_i hpath
        rw [lookup_cons, lookup_cons, ih]
        by_cases hq : q = path <;> simp [hq, hpath]

@[simp] theorem get?_insert (m : PathMap α) (path q : String) (a : α) :
    (m.insert path a).get? q = if q = path then some a else m.get? q :=
  lookup_insertEntry path q a m.entries

theorem lookup_of_sorted {e : String × α} {es : List (String × α)}
    (h : (e :: es).Pairwise fun a b => a.1 < b.1) {q : String} (hq : ¬ e.1 < q) :
    es.lookup q = none := by
  refine List.lookup_eq_none_iff.2 fun d hd => ?_
  have hlt : e.1 < d.1 := List.rel_of_pairwise_cons h hd
  have hne : q ≠ d.1 := fun he => hq (he ▸ hlt)
  simpa using hne

theorem lookup_of_mem {e : String × α} {es : List (String × α)}
    (h : es.Pairwise fun a b => a.1 < b.1) (he : e ∈ es) : es.lookup e.1 = some e.2 := by
  induction es with
  | nil => cases he
  | cons d es ih =>
    rw [lookup_cons]
    rcases List.mem_cons.1 he with rfl | he
    · rw [if_pos rfl]
    · have hlt : d.1 < e.1 := List.rel_of_pairwise_cons h he
      rw [if_neg (Std.ne_of_lt hlt).symm, ih (List.Pairwise.of_cons h) he]

theorem mem_entries_iff {m : PathMap α} {path : String} {a : α} :
    (path, a) ∈ m.entries ↔ m.get? path = some a := by
  constructor
  · intro h
    exact lookup_of_mem m.sorted h
  · intro h
    exact mem_of_lookup h

/-- The first paths of entries with equal lookups are not in order. -/
theorem not_lt_of_lookup_eq {e d : String × α} {es ds : List (String × α)}
    (hd : (d :: ds).Pairwise fun a b => a.1 < b.1)
    (h : ∀ q, (e :: es).lookup q = (d :: ds).lookup q) : ¬ e.1 < d.1 := by
  intro hlt
  have he := h e.1
  rw [lookup_cons, if_pos rfl, lookup_cons, if_neg (Std.ne_of_lt hlt),
    lookup_of_sorted hd (Std.not_lt.2 (Std.le_of_lt hlt))] at he
  cases he

/-- Entries in order are known from what is looked up. -/
theorem entries_ext {es ds : List (String × α)} (he : es.Pairwise fun a b => a.1 < b.1)
    (hd : ds.Pairwise fun a b => a.1 < b.1) (h : ∀ q, es.lookup q = ds.lookup q) : es = ds := by
  induction es generalizing ds with
  | nil =>
    cases ds with
    | nil => rfl
    | cons d ds =>
      have hn := h d.1
      rw [lookup_cons, if_pos rfl] at hn
      cases hn
  | cons e es ih =>
    cases ds with
    | nil =>
      have hn := h e.1
      rw [lookup_cons, if_pos rfl] at hn
      cases hn
    | cons d ds =>
      have hde : ¬ d.1 < e.1 := not_lt_of_lookup_eq he fun q => (h q).symm
      have hed : ¬ e.1 < d.1 := not_lt_of_lookup_eq hd h
      have hkey : e.1 = d.1 := Std.le_antisymm (Std.not_lt.1 hde) (Std.not_lt.1 hed)
      have hval : e.2 = d.2 := by
        have hv := h e.1
        rw [lookup_cons, if_pos rfl, lookup_cons, if_pos hkey] at hv
        exact Option.some.inj hv
      obtain rfl : e = d := Prod.ext hkey hval
      congr 1
      refine ih (List.Pairwise.of_cons he) (List.Pairwise.of_cons hd) fun q => ?_
      by_cases hq : q = e.1
      · rw [hq, lookup_of_sorted he Std.lt_irrefl, lookup_of_sorted hd Std.lt_irrefl]
      · have hl := h q
        rwa [lookup_cons, if_neg hq, lookup_cons, if_neg hq] at hl

/-- Maps are known from what is registered at each path. -/
theorem ext_get? {m n : PathMap α} (h : ∀ path, m.get? path = n.get? path) : m = n :=
  PathMap.ext (entries_ext m.sorted n.sorted h)

@[simp] theorem insert_insert (m : PathMap α) (path : String) (a b : α) :
    (m.insert path a).insert path b = m.insert path b := by
  refine ext_get? fun q => ?_
  by_cases hq : q = path <;> simp [hq]

theorem get?_foldl_insert {es : List (String × α)} (h : es.Pairwise fun a b => a.1 < b.1)
    (m : PathMap α) (path : String) :
    (es.foldl (fun m e => m.insert e.1 e.2) m).get? path = (es.lookup path).or (m.get? path) := by
  induction es generalizing m with
  | nil => rfl
  | cons e es ih =>
    rw [List.foldl_cons, ih (List.Pairwise.of_cons h), get?_insert, lookup_cons]
    by_cases hp : path = e.1
    · rw [if_pos hp, if_pos hp, hp, lookup_of_sorted h Std.lt_irrefl]
      rfl
    · rw [if_neg hp, if_neg hp]

@[simp] theorem get?_overlay (m n : PathMap α) (path : String) :
    (m.overlay n).get? path = (n.get? path).or (m.get? path) :=
  get?_foldl_insert n.sorted m path

@[simp] theorem overlay_empty_left (m : PathMap α) : (∅ : PathMap α).overlay m = m :=
  ext_get? fun path => by simp

/-- Nothing shows through a map that sets every path of the one below. -/
theorem overlay_eq_right_iff {m n : PathMap α} :
    m.overlay n = n ↔ ∀ path, (m.get? path).isSome → (n.get? path).isSome := by
  constructor
  · intro h path hm
    have hp := get?_overlay m n path
    rw [h] at hp
    rw [hp]
    cases n.get? path with
    | some => rfl
    | none => exact hm
  · intro h
    refine ext_get? fun path => ?_
    rw [get?_overlay]
    have hpath := h path
    cases hm : m.get? path with
    | none => rw [Option.or_none]
    | some =>
      rw [hm] at hpath
      obtain ⟨a, hn⟩ := Option.isSome_iff_exists.1 (hpath rfl)
      rw [hn]
      rfl

end PathMap

end Typeset.Compile
