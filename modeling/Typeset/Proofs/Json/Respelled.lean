/-
JSON values that say the same.

Records and variants look their fields up by name. So an object says the same
whatever order its fields stand in, whatever further fields stand beside them,
and without those that are null. `Respelled` allows all of that, in any object
of a value, and a respelled field is read as the field was written.
-/
import Mathlib.Data.List.Forall2
import Typeset.Json
import Typeset.Proofs.Lookup

namespace Typeset.Json

/-! ## Respelling -/

/-- Fields with related values, in order, but for nulls that are left out. -/
inductive FieldsRel (R : Json → Json → Prop) :
    List (String × Json) → List (String × Json) → Prop
  | nil : FieldsRel R [] []
  | keep {name : String} {v w : Json} {fs gs : List (String × Json)} : R v w →
      FieldsRel R fs gs → FieldsRel R ((name, v) :: fs) ((name, w) :: gs)
  | leave {name : String} {fs gs : List (String × Json)} :
      FieldsRel R fs gs → FieldsRel R ((name, .null) :: fs) gs

/-- The second value is the first, but in its objects the fields stand in any order, with any fields
beside them that the object does not have, and some that are null are left out. -/
inductive Respelled : Json → Json → Prop
  | null : Respelled .null .null
  | bool (b : Bool) : Respelled (.bool b) (.bool b)
  | int (n : Int) : Respelled (.int n) (.int n)
  | decimal (mantissa : Int) (exponent : Nat) :
      Respelled (.decimal mantissa exponent) (.decimal mantissa exponent)
  | str (s : String) : Respelled (.str s) (.str s)
  | arr {xs ys : List Json} : List.Forall₂ Respelled xs ys →
      Respelled (.arr xs) (.arr ys)
  | obj {fs gs hs extra : List (String × Json)} : FieldsRel Respelled fs gs →
      (∀ e ∈ extra, e.1 ∉ fs.map Prod.fst) → hs.Perm (gs ++ extra) →
      Respelled (.obj fs) (.obj hs)

mutual

theorem Respelled.refl : ∀ j : Json, Respelled j j
  | .null => .null
  | .bool b => .bool b
  | .int n => .int n
  | .decimal m e => .decimal m e
  | .str s => .str s
  | .arr items => .arr (Respelled.refl_items items)
  | .obj fields =>
    .obj (Respelled.refl_fields fields) (List.forall_mem_nil _) (by rw [List.append_nil])

theorem Respelled.refl_items : ∀ items : List Json, List.Forall₂ Respelled items items
  | [] => .nil
  | j :: items => .cons (Respelled.refl j) (Respelled.refl_items items)

theorem Respelled.refl_fields : ∀ fields : List (String × Json),
    FieldsRel Respelled fields fields
  | [] => .nil
  | (_, v) :: fields => .keep (Respelled.refl v) (Respelled.refl_fields fields)

end

/-! ## Looking fields up -/

/-- What is found for a field with the value `v`. -/
inductive Found (v : Json) : Option Json → Prop
  | value {w : Json} : Respelled v w → Found v (some w)
  | missing : v = .null → Found v none

theorem FieldsRel.names {R : Json → Json → Prop} {fs gs : List (String × Json)}
    (h : FieldsRel R fs gs) : (gs.map Prod.fst).Sublist (fs.map Prod.fst) := by
  induction h with
  | nil => exact .slnil
  | keep _ _ ih => exact ih.cons_cons _
  | leave _ ih => exact ih.cons _

theorem FieldsRel.found {fs gs : List (String × Json)}
    (h : FieldsRel Respelled fs gs) (hn : (fs.map Prod.fst).Nodup)
    {name : String} {v : Json} (hv : (name, v) ∈ fs) : Found v (gs.lookup name) := by
  induction h with
  | nil => cases hv
  | @keep first _ _ fs _ hw _ ih =>
    obtain ⟨hfirst, hn⟩ := List.nodup_cons.1 hn
    rcases List.mem_cons.1 hv with he | hv
    · cases he
      rw [List.lookup_cons_self]
      exact .value hw
    · have hm : name ∈ fs.map Prod.fst := List.mem_map_of_mem (f := Prod.fst) hv
      have hne : (name == first) = false := beq_false_of_ne fun he => hfirst (he ▸ hm)
      rw [List.lookup_cons, hne]
      exact ih hn hv
  | @leave first fs gs hrest ih =>
    obtain ⟨hfirst, hn⟩ := List.nodup_cons.1 hn
    rcases List.mem_cons.1 hv with he | hv
    · cases he
      have hnone : gs.lookup name = none := by
        refine List.lookup_eq_none_iff.2 fun g hg => bne_iff_ne.2 fun he => hfirst ?_
        have hm : g.1 ∈ gs.map Prod.fst := List.mem_map_of_mem hg
        exact he ▸ hrest.names.subset hm
      rw [hnone]
      exact .missing rfl
    · exact ih hn hv

/-- Further fields change nothing for the names of an object. -/
theorem lookup_extra {gs hs extra : List (String × Json)} {name : String}
    (hp : hs.Perm (gs ++ extra)) (hn : (gs.map Prod.fst).Nodup) (he : ∀ e ∈ extra, e.1 ≠ name) :
    hs.lookup name = gs.lookup name := by
  refine lookup_congr (fun a => ?_) fun _ _ => eq_of_nodup_keys hn
  rw [hp.mem_iff, List.mem_append]
  constructor
  · rintro (h | h)
    · exact h
    · exact absurd rfl (he _ h)
  · exact .inl

/-- **A respelled object has the fields of the object.** -/
theorem Respelled.fields {fields : List (String × Json)} {j : Json}
    (h : Respelled (.obj fields) j) (hn : (fields.map Prod.fst).Nodup) :
    ∃ hs, j = .obj hs ∧ ∀ f ∈ fields, Found f.2 (hs.lookup f.1) := by
  cases h with
  | obj hrel hextra hp =>
    refine ⟨_, rfl, fun f hf => ?_⟩
    have hname : f.1 ∈ fields.map Prod.fst := List.mem_map_of_mem hf
    rw [lookup_extra hp (hn.sublist hrel.names) fun e he hk => hextra e he (hk ▸ hname)]
    exact hrel.found hn hf

/-! ## Records and variants -/

/-- A respelled record is read as a record with its fields. -/
theorem Respelled.record? {fields : List (String × Json)} {j : Json}
    (h : Respelled (.obj fields) j) (hn : (fields.map Prod.fst).Nodup)
    (names : List String) : ∃ fs : Fields j, j.record? names = some fs ∧
      ∀ f ∈ fields, Found f.2 (fs.get? f.1) := by
  obtain ⟨hs, rfl, hfound⟩ := h.fields hn
  exact ⟨_, rfl, hfound⟩

/-- A respelled variant is read as that variant with its fields, inside another or not. -/
theorem Respelled.variant? {tagName tag : String} {fields : List (String × Json)} {j : Json}
    (h : Respelled (.obj ((tagName, .str tag) :: fields)) j)
    (hn : (tagName :: fields.map Prod.fst).Nodup) (vs : Variants) (inside : Bool) :
    ∃ fs : Fields j, j.variant? tagName vs inside = some ⟨tag, fs⟩ ∧
      ∀ f ∈ fields, Found f.2 (fs.get? f.1) := by
  obtain ⟨hs, rfl, hfound⟩ := h.fields hn
  have htag : hs.lookup tagName = some (.str tag) := by
    have ht := hfound _ List.mem_cons_self
    revert ht
    generalize hs.lookup tagName = found
    rintro (⟨⟨⟩⟩ | ⟨⟨⟩⟩)
    rfl
  refine ⟨⟨hs, fun _ h => sizeOf_lt_of_mem_obj h⟩, ?_, fun f hf =>
    hfound f (List.mem_cons_of_mem _ hf)⟩
  simp [Json.variant?, htag, Variants.tag?]

/-! ## Values -/

section

variable {j v : Json} {name : String} {fs : Fields j}

theorem Found.get? (h : Found v (fs.get? name)) (hv : v ≠ .null) :
    ∃ w, fs.get? name = some w ∧ Respelled v w := by
  cases hg : fs.get? name with
  | none =>
    rw [hg] at h
    cases h with
    | missing hnull => exact absurd hnull hv
  | some w =>
    rw [hg] at h
    cases h with
    | value hw => exact ⟨w, rfl, hw⟩

theorem Found.read? {α : Type} {read : Json → Option α} {a : α}
    (h : Found v (fs.get? name)) (hv : v ≠ .null)
    (hread : ∀ w, Respelled v w → read w = some a) : fs.read? name read = some a := by
  obtain ⟨w, hw, hr⟩ := h.get? hv
  rw [Fields.read?, hw]
  exact hread w hr

theorem Respelled.string? {s : String} {w : Json} (h : Respelled (.str s) w) :
    w.string? = some s := by
  cases h
  rfl

theorem Respelled.bool? {b : Bool} {w : Json} (h : Respelled (.bool b) w) : w.bool? = some b := by
  cases h
  rfl

theorem byte?_toNat (b : UInt8) : Json.byte? (.int b.toNat) = some b := by
  have hlt : b.toNat < 256 := b.toNat_lt
  simp [Json.byte?, Json.nat?, hlt]

theorem Respelled.byte? (b : UInt8) {w : Json} (h : Respelled (.int b.toNat) w) :
    w.byte? = some b := by
  cases h
  exact byte?_toNat b

theorem Found.string? {s : String} (h : Found (.str s) (fs.get? name)) :
    fs.string? name = some s :=
  h.read? (by simp) fun _ => Respelled.string?

theorem Fields.sizeOf_lt {w : Json} (h : fs.get? name = some w) : sizeOf w < sizeOf j :=
  fs.property _ (Compile.mem_of_lookup h)

theorem Fields.items?_of_get? {items : List Json} (h : fs.get? name = some (.arr items)) :
    ∃ hlt, fs.items? name = some ⟨items, hlt⟩ := by
  have hlt : sizeOf items < sizeOf j := by
    have := fs.sizeOf_lt h
    simp only [Json.arr.sizeOf_spec] at this
    omega
  refine ⟨hlt, ?_⟩
  unfold Fields.items?
  split
  · rename_i found hfound
    have he : some (Json.arr found) = some (.arr items) := hfound.symm.trans h
    cases he
    rfl
  · rename_i hnot
    exact absurd h (hnot items)

theorem Found.items? {xs : List Json} (h : Found (.arr xs) (fs.get? name)) :
    ∃ ys hlt, fs.items? name = some ⟨ys, hlt⟩ ∧ List.Forall₂ Respelled xs ys := by
  obtain ⟨w, hw, hr⟩ := h.get? (by simp)
  cases hr with
  | @arr _ ys hitems =>
    obtain ⟨hlt, hys⟩ := Fields.items?_of_get? hw
    exact ⟨ys, hlt, hys, hitems⟩

/-- A value that may be missing or null is read as it was written. -/
theorem Found.optional? {α : Type} {write : α → Json} {read : Json → Option α} {o : Option α}
    {found : Option Json} (h : Found (.ofOption write o) found) (hwrite : ∀ a, write a ≠ .null)
    (hread : ∀ a w, Respelled (write a) w → read w = some a) :
    Json.optional? read found = some o := by
  cases o with
  | none =>
    rw [Json.ofOption] at h
    cases h with
    | missing => rfl
    | value hw =>
      cases hw
      rfl
  | some a =>
    rw [Json.ofOption] at h
    cases h with
    | missing hnull => exact absurd hnull (hwrite a)
    | @value w hw =>
      have hne : w ≠ .null := by
        rintro rfl
        generalize ha : write a = v at hw
        cases hw
        exact hwrite a ha
      rw [Json.optional?, hread a w hw]
      · rfl
      · simpa using hne

theorem Respelled.listOf? {α : Type} {write : α → Json} {read : Json → Option α} {as : List α}
    {w : Json} (h : Respelled (.arr (as.map write)) w)
    (hread : ∀ a w, Respelled (write a) w → read w = some a) : Json.listOf? read w = some as := by
  cases h with
  | arr hitems =>
    rw [List.forall₂_map_left_iff] at hitems
    rw [Json.listOf?]
    induction hitems with
    | nil => rfl
    | cons hitem _ ih => simp [hread _ _ hitem, ih]

end

end Typeset.Json
