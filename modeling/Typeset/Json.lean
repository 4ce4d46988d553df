/-
JSON values and how records and variants are read from them.

Numbers are integers, or decimals that no integer field takes. A record is an
object, whose further fields are ignored, or the array of its fields in
order. A variant is an object with a tag among its fields, or an array that
starts with the tag. The fields found are smaller than the value that holds
them, so that trees are read by recursion on size.
-/

namespace Typeset

inductive Json where
  | null
  | bool (value : Bool)
  | int (value : Int)
  /-- A number with a decimal point or an exponent. -/
  | decimal (mantissa : Int) (exponent : Nat)
  | str (value : String)
  | arr (items : List Json)
  | obj (fields : List (String × Json))
  deriving Inhabited

namespace Json

/-! ## Equality -/

mutual

/-- Whether two values are the same, fields in the same order. -/
def same : Json → Json → Bool
  | .null, .null => true
  | .bool a, .bool b => a == b
  | .int a, .int b => a == b
  | .decimal m e, .decimal n f => m == n && e == f
  | .str a, .str b => a == b
  | .arr xs, .arr ys => sameItems xs ys
  | .obj xs, .obj ys => sameFields xs ys
  | _, _ => false

def sameItems : List Json → List Json → Bool
  | [], [] => true
  | x :: xs, y :: ys => same x y && sameItems xs ys
  | _, _ => false

def sameFields : List (String × Json) → List (String × Json) → Bool
  | [], [] => true
  | (k, x) :: xs, (l, y) :: ys => k == l && same x y && sameFields xs ys
  | _, _ => false

end

/-! ## Fields -/

/-- Fields of a value, each smaller than it. -/
abbrev Fields (j : Json) : Type :=
  { fields : List (String × Json) // ∀ p ∈ fields, sizeOf p.2 < sizeOf j }

theorem sizeOf_lt_of_mem_obj {fields : List (String × Json)} {p : String × Json}
    (h : p ∈ fields) : sizeOf p.2 < sizeOf (Json.obj fields) := by
  have := List.sizeOf_lt_of_mem h
  obtain ⟨k, v⟩ := p
  simp only [Prod.mk.sizeOf_spec, Json.obj.sizeOf_spec] at *
  omega

theorem sizeOf_lt_of_mem_zip {names : List String} {items : List Json} {p : String × Json}
    (h : p ∈ names.zip items) : sizeOf p.2 < sizeOf (Json.arr items) := by
  have := List.sizeOf_lt_of_mem (List.of_mem_zip (a := p.1) (b := p.2) h).2
  simp only [Json.arr.sizeOf_spec]
  omega

/-- The fields of a record with these names. -/
def record? (names : List String) : (j : Json) → Option (Fields j)
  | .obj fields => some ⟨fields, fun _ h => sizeOf_lt_of_mem_obj h⟩
  | .arr items =>
    if items.length ≤ names.length then
      some ⟨names.zip items, fun _ h => sizeOf_lt_of_mem_zip h⟩
    else none
  | _ => none

/-- The variants of a type in order: their tags, each with the names of its fields. -/
abbrev Variants := List (String × List String)

/-- The names of the fields of a variant. -/
def Variants.fields (vs : Variants) (tag : String) : List String := (vs.lookup tag).getD []

/-- The tag that a value names. Inside another variant a number counts the variants. -/
def Variants.tag? (vs : Variants) (inside : Bool) : Json → Option String
  | .str tag => some tag
  | .int n => if inside && 0 ≤ n then (vs[n.toNat]?).map (·.1) else none
  | _ => none

/-- The tag of a variant and its fields. -/
structure Variant (j : Json) where
  tag : String
  fields : Fields j

/-- A value read as one of some variants; `inside` tells that it is part of another variant. -/
def variant? (tagName : String) (vs : Variants) (inside : Bool) : (j : Json) → Option (Variant j)
  | .obj fields => do
    let tag ← vs.tag? inside (← fields.lookup tagName)
    return ⟨tag, fields, fun _ h => sizeOf_lt_of_mem_obj h⟩
  | .arr (t :: items) => do
    let tag ← vs.tag? inside t
    let names := vs.fields tag
    if items.length ≤ names.length then
      return ⟨tag, names.zip items, fun _ h => by
        have := sizeOf_lt_of_mem_zip h
        simp only [Json.arr.sizeOf_spec, List.cons.sizeOf_spec] at *
        omega⟩
    else none
  | _ => none

namespace Fields

variable {j : Json}

/-- The value of a field. -/
def get? (fs : Fields j) (name : String) : Option Json := fs.val.lookup name

/-- A field as `read` reads it. -/
def read? {α : Type} (fs : Fields j) (name : String) (read : Json → Option α) : Option α :=
  (fs.get? name).bind read

/-- The items of a field that is an array. -/
def items? (fs : Fields j) (name : String) :
    Option { items : List Json // sizeOf items < sizeOf j } :=
  match h : fs.val.lookup name with
  | some (.arr items) =>
    some ⟨items, by
      have hm := fs.property (name, .arr items)
        (by
          obtain ⟨l₁, l₂, hl, -⟩ := List.lookup_eq_some_iff.1 h
          rw [hl]; simp)
      simp only [Json.arr.sizeOf_spec] at hm
      omega⟩
  | _ => none

end Fields

/-! ## Values -/

def string? : Json → Option String
  | .str s => some s
  | _ => none

def bool? : Json → Option Bool
  | .bool b => some b
  | _ => none

/-- An integer below a bound. -/
def nat? (bound : Nat) : Json → Option Nat
  | .int n => if 0 ≤ n && n.toNat < bound then some n.toNat else none
  | _ => none

def byte? (j : Json) : Option UInt8 := (j.nat? 256).map UInt8.ofNat

/-- The name and the content of a choice without fields: a string, or an object with that one
field. -/
def choice? : Json → Option (String × Json)
  | .str name => some (name, .null)
  | .obj [(name, content)] => some (name, content)
  | _ => none

/-- The items of an array, each read. -/
def listOf? {α : Type} (read : Json → Option α) : Json → Option (List α)
  | .arr items => items.mapM read
  | _ => none

def strings? : Json → Option (List String) := listOf? string?

def bytes? : Json → Option (List UInt8) := listOf? byte?

/-- A string field. -/
def Fields.string? {j : Json} (fs : Fields j) (name : String) : Option String :=
  fs.read? name Json.string?

/-- A field that may be missing or null. -/
def optional? {α : Type} (read : Json → Option α) : Option Json → Option (Option α)
  | none | some .null => some none
  | some j => (read j).map some

/-! ## Writing -/

def ofStrings (ss : List String) : Json := .arr (ss.map .str)

def ofBytes (bs : List UInt8) : Json := .arr (bs.map fun b => .int b.toNat)

def ofOption {α : Type} (write : α → Json) : Option α → Json
  | none => .null
  | some a => write a

end Json

end Typeset
