import Mathlib.Data.List.Basic

/-! Texts of one-byte characters: their bytes are their characters, one for one. -/

namespace NarrowText

/-- Every character is encoded as one byte. -/
def Narrow (text : List Char) : Prop := ∀ glyph ∈ text, glyph.utf8Size = 1

def byte (glyph : Char) : UInt8 := glyph.val.toUInt8

def char (byte : UInt8) : Char := Char.ofNat byte.toNat

theorem char_byte {glyph : Char} (narrow : glyph.utf8Size = 1) : char (byte glyph) = glyph := by
  have small : glyph.val.toNat ≤ 127 := UInt32.le_iff_toNat_le.mp (Char.utf8Size_eq_one_iff.mp narrow)
  have whole : (byte glyph).toNat = glyph.toNat := by
    rw [byte, UInt32.toNat_toUInt8]
    apply Nat.mod_eq_of_lt
    omega
  rw [char, whole, Char.ofNat_toNat]

def bytes (text : String) : List UInt8 := text.toByteArray.data.toList

theorem bytes_eq_flatMap (text : String) : bytes text = text.toList.flatMap String.utf8EncodeChar := by
  rw [bytes, ← String.ofList_toList (s := text), String.toByteArray_ofList, List.utf8Encode,
    List.toList_data_toByteArray, String.toList_ofList]

theorem encode_narrow {glyphs : List Char} (narrow : Narrow glyphs) :
    glyphs.flatMap String.utf8EncodeChar = glyphs.map byte := by
  induction glyphs with
  | nil => rfl
  | cons glyph rest ih =>
    obtain ⟨here, later⟩ := List.forall_mem_cons.mp narrow
    rw [List.flatMap_cons, String.utf8EncodeChar_eq_singleton here, ih later, List.map_cons]
    rfl

theorem bytes_narrow {text : String} (narrow : Narrow text.toList) : bytes text = text.toList.map byte := by
  rw [bytes_eq_flatMap, encode_narrow narrow]

/-- The characters are read back byte by byte. -/
theorem map_char_byte {glyphs : List Char} (narrow : Narrow glyphs) : (glyphs.map byte).map char = glyphs := by
  calc (glyphs.map byte).map char
    _ = glyphs.map (char ∘ byte) := List.map_map
    _ = glyphs.map id := List.map_congr_left fun glyph member => char_byte (narrow glyph member)
    _ = glyphs := List.map_id glyphs

end NarrowText
