/-
The order of texts and the order of their bytes.

Texts are compared by their characters. UTF-8 writes a greater character in
greater bytes, and the first character in which two texts differ decides about
both, so the order is the same.
-/
import Mathlib.Data.List.Basic

namespace Typeset.Text

/-- A number of at most 21 bits in digits of six. -/
theorem sixBits {n : Nat} (hn : n < 2097152) :
    n = 262144 * (n / 262144 % 8) + 4096 * (n / 4096 % 64) + 64 * (n / 64 % 64) + n % 64 := by
  omega

/-- The lesser of two characters is written in lesser bytes, whatever follows. -/
theorem utf8EncodeChar_lt {c d : Char} (h : c < d) (x y : List UInt8) :
    String.utf8EncodeChar c ++ x < String.utf8EncodeChar d ++ y := by
  have hlt : c.val.toNat < d.val.toNat := h
  have hd : d.val.toNat < 1114112 := by
    have hvalid := d.valid
    simp only [UInt32.isValidChar, Nat.isValidChar] at hvalid
    omega
  unfold String.utf8EncodeChar
  generalize c.val.toNat = v at *
  generalize d.val.toNat = w at *
  have hv : v = _ := sixBits (by omega)
  have hw : w = _ := sixBits (by omega)
  simp only
  -- One case for each pair of lengths. The bytes are digits, and a longer code begins greater.
  split_ifs <;>
    simp only [List.cons_append, List.nil_append, List.cons_lt_cons_iff, UInt8.lt_iff_toNat_lt,
      ← UInt8.toNat_inj, UInt8.toNat_ofNat', Nat.reducePow] <;>
    simp (disch := omega) only [Nat.mod_eq_of_lt] <;>
    omega

theorem flatMap_utf8EncodeChar_lt {cs ds : List Char} (h : cs < ds) :
    cs.flatMap String.utf8EncodeChar < ds.flatMap String.utf8EncodeChar := by
  induction h with
  | @nil d ds =>
    have hpos : 0 < (String.utf8EncodeChar d).length := by
      rw [String.length_utf8EncodeChar]
      exact d.utf8Size_pos
    obtain ⟨b, bs, hb⟩ := List.exists_cons_of_length_pos hpos
    rw [List.flatMap_cons, hb]
    exact List.nil_lt_cons b _
  | rel hlt => exact utf8EncodeChar_lt hlt _ _
  | cons _ ih => exact List.append_left_lt ih

theorem toList_data_toUTF8 (s : String) :
    s.toUTF8.data.toList = s.toList.flatMap String.utf8EncodeChar := by
  conv_lhs => rw [← String.ofList_toList (s := s)]
  rw [String.toUTF8_eq_toByteArray]
  exact congrArg Array.toList List.data_toByteArray

/-- **Texts are in the order of their bytes.** -/
theorem toUTF8_lt {s t : String} (h : s < t) :
    s.toUTF8.data.toList < t.toUTF8.data.toList := by
  rw [toList_data_toUTF8, toList_data_toUTF8]
  exact flatMap_utf8EncodeChar_lt h

end Typeset.Text
