import Mathlib.Algebra.Order.Ring.Int

/-! Saturating arithmetic on machine words, specified by the numbers the words
stand for: the exact result, cut off at the greatest word or at zero. -/

namespace UInt64

def greatest : Nat := UInt64.size - 1

theorem toNat_le_greatest (word : UInt64) : word.toNat ≤ greatest :=
  Nat.le_sub_one_of_lt word.toNat_lt_size

def saturatingAdd (first second : UInt64) : UInt64 :=
  UInt64.ofNat (min (first.toNat + second.toNat) greatest)

def saturatingSub (first second : UInt64) : UInt64 :=
  UInt64.ofNat (first.toNat - second.toNat)

def saturatingMul (first second : UInt64) : UInt64 :=
  UInt64.ofNat (min (first.toNat * second.toNat) greatest)

theorem toNat_ofNat_of_le {number : Nat} (fits : number ≤ greatest) : (UInt64.ofNat number).toNat = number := by
  apply UInt64.toNat_ofNat_of_lt'
  have positive : 0 < UInt64.size := by decide
  have bound : greatest = UInt64.size - 1 := rfl
  omega

theorem toNat_succ_of_lt {word : UInt64} (room : word.toNat < greatest) : (word + 1).toNat = word.toNat + 1 := by
  have bound : greatest = 2 ^ 64 - 1 := rfl
  rw [UInt64.toNat_add, UInt64.toNat_one, Nat.mod_eq_of_lt]
  omega

@[simp] theorem toNat_saturatingAdd (first second : UInt64) :
    (first.saturatingAdd second).toNat = min (first.toNat + second.toNat) greatest :=
  toNat_ofNat_of_le (Nat.min_le_right _ _)

theorem toNat_saturatingAdd_one {word : UInt64} (room : word.toNat + 1 ≤ greatest) :
    (word.saturatingAdd 1).toNat = word.toNat + 1 := by
  rw [toNat_saturatingAdd, UInt64.toNat_one, Nat.min_eq_left room]

@[simp] theorem toNat_saturatingSub (first second : UInt64) :
    (first.saturatingSub second).toNat = first.toNat - second.toNat :=
  toNat_ofNat_of_le (Nat.le_trans (Nat.sub_le _ _) first.toNat_le_greatest)

@[simp] theorem toNat_saturatingMul (first second : UInt64) :
    (first.saturatingMul second).toNat = min (first.toNat * second.toNat) greatest :=
  toNat_ofNat_of_le (Nat.min_le_right _ _)

end UInt64

namespace UInt32

def greatest : Nat := UInt32.size - 1

def saturatingAdd (first second : UInt32) : UInt32 :=
  UInt32.ofNat (min (first.toNat + second.toNat) greatest)

theorem toNat_ofNat_of_le {number : Nat} (fits : number ≤ greatest) : (UInt32.ofNat number).toNat = number := by
  apply UInt32.toNat_ofNat_of_lt'
  have positive : 0 < UInt32.size := by decide
  have bound : greatest = UInt32.size - 1 := rfl
  omega

@[simp] theorem toNat_saturatingAdd (first second : UInt32) :
    (first.saturatingAdd second).toNat = min (first.toNat + second.toNat) greatest :=
  toNat_ofNat_of_le (Nat.min_le_right _ _)

theorem toNat_add_of_le {first second : UInt32} (fits : first.toNat + second.toNat ≤ greatest) :
    (first + second).toNat = first.toNat + second.toNat := by
  have bound : greatest = 2 ^ 32 - 1 := rfl
  rw [UInt32.toNat_add, Nat.mod_eq_of_lt]
  omega

end UInt32
