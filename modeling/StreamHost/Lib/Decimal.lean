import Mathlib.Algebra.Order.Ring.Int
import Mathlib.Data.List.Sort

/-! Decimal numerals: reading them into fixed-width integers, and the bytes a
rendering takes. -/

namespace Decimal

def parseDigits (glyphs : List Char) : Option Nat :=
  if glyphs.isEmpty || !glyphs.all Char.isDigit then none
  else some (glyphs.foldl (fun value glyph => value * 10 + (glyph.toNat - '0'.toNat)) 0)

/-- One leading sign is allowed. -/
def parseInt (glyphs : List Char) : Option Int :=
  match glyphs with
  | '-' :: rest => (parseDigits rest).map fun value => -(value : Int)
  | '+' :: rest => (parseDigits rest).map Int.ofNat
  | glyphs => (parseDigits glyphs).map Int.ofNat

def parseI64 (text : String) : Option Int :=
  (parseInt text.toList).filter fun value => -2 ^ 63 ≤ value && value < 2 ^ 63

/-- Unsigned numerals may have a plus sign. -/
def parseNat (glyphs : List Char) : Option Nat :=
  match glyphs with
  | '+' :: rest => parseDigits rest
  | glyphs => parseDigits glyphs

def parseU64 (glyphs : List Char) : Option UInt64 :=
  ((parseNat glyphs).filter (· < 2 ^ 64)).map UInt64.ofNat

theorem utf8ByteSize_ofList {glyphs : List Char} (narrow : ∀ glyph ∈ glyphs, glyph.utf8Size = 1) :
    (String.ofList glyphs).utf8ByteSize = glyphs.length := by
  induction glyphs with
  | nil => rfl
  | cons glyph rest ih =>
    obtain ⟨first, later⟩ := List.forall_mem_cons.mp narrow
    rw [String.ofList_cons, String.utf8ByteSize_append, String.utf8ByteSize_singleton, first, ih later,
      List.length_cons, Nat.add_comm]

theorem utf8Size_of_isDigit {glyph : Char} (digit : glyph.isDigit = true) : glyph.utf8Size = 1 := by
  rw [Char.utf8Size_eq_one_iff]
  rw [Char.isDigit, Bool.and_eq_true, decide_eq_true_iff, decide_eq_true_iff] at digit
  exact UInt32.le_trans digit.2 (by decide)

theorem toList_toString (number : Nat) : (toString number).toList = Nat.toDigits 10 number := Nat.toList_repr

theorem isDigit_toDigits {number : Nat} {glyph : Char} (member : glyph ∈ Nat.toDigits 10 number) :
    glyph.isDigit = true := Nat.isDigit_of_mem_toDigits (by decide) (by decide) member

/-- A number below the power of ten takes at most that many bytes. -/
theorem utf8ByteSize_toString_le {number digits : Nat} (positive : 0 < digits) (below : number < 10 ^ digits) :
    (toString number).utf8ByteSize ≤ digits := by
  rw [Nat.toString_eq_ofList_toDigits, utf8ByteSize_ofList]
  · exact (Nat.length_toDigits_le_iff (by decide) positive).mpr below
  · intro glyph member
    exact utf8Size_of_isDigit (isDigit_toDigits member)

theorem parseDigits_toDigits (number : Nat) : parseDigits (Nat.toDigits 10 number) = some number := by
  have digits : (Nat.toDigits 10 number).all Char.isDigit = true :=
    List.all_eq_true.mpr fun _ member => isDigit_toDigits member
  have some_digits : (Nat.toDigits 10 number).isEmpty = false := List.isEmpty_eq_false_iff.mpr Nat.toDigits_ne_nil
  have value : Nat.ofDigitChars 10 (Nat.toDigits 10 number) 0 = number := Nat.ofDigitChars_ten_toDigits
  rw [Nat.ofDigitChars_eq_foldl] at value
  rw [parseDigits, digits, some_digits, if_neg (by decide)]
  simp only [Nat.mul_comm _ 10, value]

/-- Digits are read without a sign. -/
theorem parseInt_digits {glyphs : List Char} (digits : ∀ glyph ∈ glyphs, glyph.isDigit = true) :
    parseInt glyphs = (parseDigits glyphs).map Int.ofNat := by
  unfold parseInt
  split
  · exact absurd (digits '-' List.mem_cons_self) (by decide)
  · exact absurd (digits '+' List.mem_cons_self) (by decide)
  · rfl

/-- The numeral of a natural number is read back exactly below the bound of the signed word. -/
theorem parseI64_toString (number : Nat) :
    parseI64 (toString number) = if number < 2 ^ 63 then some (number : Int) else none := by
  rw [parseI64, toList_toString, parseInt_digits fun _ member => isDigit_toDigits member, parseDigits_toDigits,
     Option.map_some, Int.ofNat_eq_natCast, Option.filter_some]
  by_cases small : number < 2 ^ 63
  · rw [if_pos small]
    refine if_pos ?_
    rw [Bool.and_eq_true, decide_eq_true_iff, decide_eq_true_iff]
    exact ⟨by omega, by omega⟩
  · rw [if_neg small]
    refine if_neg ?_
    rw [Bool.and_eq_true, decide_eq_true_iff, decide_eq_true_iff]
    omega

/-- The numeral of a word is read back, without a sign. -/
theorem parseU64_toString (value : UInt64) : parseU64 (toString value.toNat).toList = some value := by
  have unsigned : parseNat (Nat.toDigits 10 value.toNat) = parseDigits (Nat.toDigits 10 value.toNat) := by
    unfold parseNat
    split
    · rename_i signed
      have digit : '+'.isDigit = true := isDigit_toDigits (signed ▸ List.mem_cons_self)
      cases digit
    · rfl
  have small : value.toNat < 2 ^ 64 := value.toNat_lt
  rw [toList_toString, parseU64, unsigned, parseDigits_toDigits, Option.filter_some, if_pos (decide_eq_true small),
    Option.map_some, UInt64.ofNat_toNat]

end Decimal
