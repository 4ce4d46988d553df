/-
What is looked up in a list of entries.

The first entry of a key is found. So where a key has one value at most, the
order of the entries does not matter, nor how often they stand in the list.
-/
import Mathlib.Data.List.Nodup
import Typeset.Compile.PathMap

namespace Typeset

open Compile (mem_of_lookup)

variable {κ α : Type}

theorem eq_of_nodup_keys {es : List (κ × α)} (h : (es.map Prod.fst).Nodup) {key : κ} {a b : α}
    (ha : (key, a) ∈ es) (hb : (key, b) ∈ es) : a = b := by
  have he : (key, a) = (key, b) := List.inj_on_of_nodup_map h ha hb rfl
  exact congrArg Prod.snd he

variable [BEq κ] [LawfulBEq κ]

/-- Lists with the same entries of a key, all with one value, give the same for it. -/
theorem lookup_congr {es ds : List (κ × α)} {key : κ} (h : ∀ a, (key, a) ∈ es ↔ (key, a) ∈ ds)
    (hone : ∀ a b, (key, a) ∈ ds → (key, b) ∈ ds → a = b) : es.lookup key = ds.lookup key := by
  cases he : es.lookup key with
  | none =>
    cases hd : ds.lookup key with
    | none => rfl
    | some a =>
      have hm : (key, a) ∈ es := (h a).2 (mem_of_lookup hd)
      simpa using List.lookup_eq_none_iff.1 he _ hm
  | some a =>
    have ha : (key, a) ∈ ds := (h a).1 (mem_of_lookup he)
    cases hd : ds.lookup key with
    | none => simpa using List.lookup_eq_none_iff.1 hd _ ha
    | some b => rw [hone a b ha (mem_of_lookup hd)]

theorem lookup_perm {es ds : List (κ × α)} (h : es.Perm ds) (hn : (ds.map Prod.fst).Nodup)
    (key : κ) : es.lookup key = ds.lookup key :=
  lookup_congr (fun _ => h.mem_iff) fun _ _ => eq_of_nodup_keys hn

end Typeset
