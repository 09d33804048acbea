import Mathlib.Data.List.Basic
import Mathlib.Tactic.SplitIfs
import Rollout.Text.Blank
namespace Rollout.Text

variable {c d : Char} {s t : String}

-- The bytes that a text is kept as.
def bytes (s : String) : List UInt8 :=
  s.toUTF8.data.toList

theorem bytes_eq (s : String) : bytes s = s.toList.flatMap String.utf8EncodeChar := by
  have h : s.toUTF8 = s.toList.utf8Encode := String.utf8Encode_toList.symm
  rw [bytes, h, List.utf8Encode]
  simp

theorem toNat_lt (c : Char) : c.val.toNat < 0x110000 := by
  have h := c.valid
  simp only [UInt32.isValidChar, Nat.isValidChar] at h
  omega

-- Of two characters the one with more bytes has the greater first byte. Those with equally many bytes 
-- are numerals with as many digits.
theorem utf8EncodeChar_append_lt (h : c < d) (l m : List UInt8) : 
    String.utf8EncodeChar c ++ l < String.utf8EncodeChar d ++ m := by
  have hlt : c.val.toNat < d.val.toNat := h
  have hd := toNat_lt d
  simp only [String.utf8EncodeChar]
  split_ifs <;>
    simp (disch := omega) only [List.cons_append, List.nil_append, List.cons_lt_cons_iff, 
      UInt8.lt_iff_toNat_lt, UInt8.toNat_ofNat', ← UInt8.toNat_inj, Nat.mod_eq_of_lt] <;>
    omega

theorem flatMap_utf8EncodeChar_lt {cs ds : List Char} (h : cs < ds) : 
    cs.flatMap String.utf8EncodeChar < ds.flatMap String.utf8EncodeChar := by
  induction h
  case nil d ds =>
    cases hd : (d :: ds).flatMap String.utf8EncodeChar
    case nil  => simp at hd
    case cons => exact .nil
  case cons hi => exact List.append_left_lt hi
  case rel h   => exact utf8EncodeChar_append_lt h _ _

-- To compare texts character by character is to compare their bytes.
theorem bytes_le_iff : bytes s ≤ bytes t ↔ s ≤ t := by
  rw [bytes_eq, bytes_eq]
  constructor
  case mp  =>
    intro h
    exact String.not_lt.mp fun hlt => h (flatMap_utf8EncodeChar_lt hlt)
  case mpr =>
    intro h
    by_cases hlt : s < t
    case pos => exact List.le_of_lt (flatMap_utf8EncodeChar_lt hlt)
    case neg => exact String.le_antisymm h (String.not_lt.mp hlt) ▸ List.le_refl _

theorem bytes_injective (h : bytes s = bytes t) : s = t :=
  String.le_antisymm (bytes_le_iff.mp (h ▸ List.le_refl _)) (bytes_le_iff.mp (h ▸ List.le_refl _))

theorem bytes_lt_iff : bytes s < bytes t ↔ s < t := by
  rw [← List.not_le, bytes_le_iff, String.not_le]

end Rollout.Text
