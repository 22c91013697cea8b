import Mathlib.Algebra.Order.Ring.Int
import Mathlib.Data.List.Sort

/-! Ordered maps whose keys are compared lawfully: lookups stated with equality
of keys, the rows as a list without repetitions, and weights summed over them. -/

universe u v

namespace OrdMap
open Std

variable {κ : Type u} {ν : Type v} [Ord κ] [TransOrd κ] [LawfulEqOrd κ] [DecidableEq κ]

theorem getElem?_insert (map : ExtTreeMap κ ν) (key other : κ) (value : ν) :
    (map.insert key value)[other]? = if key = other then some value else map[other]? := by
  simp only [ExtTreeMap.getElem?_insert, Std.compare_eq_iff_eq]

theorem getElem?_erase (map : ExtTreeMap κ ν) (key other : κ) :
    (map.erase key)[other]? = if key = other then none else map[other]? := by
  simp only [ExtTreeMap.getElem?_erase, Std.compare_eq_iff_eq]

theorem getD_insert (map : ExtTreeMap κ ν) (key other : κ) (value fallback : ν) :
    (map.insert key value).getD other fallback = if key = other then value else map.getD other fallback := by
  simp only [ExtTreeMap.getD_insert, Std.compare_eq_iff_eq]

theorem erase_absent (map : ExtTreeMap κ ν) {key : κ} (absent : map[key]? = none) : map.erase key = map := by
  apply ExtTreeMap.ext_getElem?
  intro other
  rw [getElem?_erase]
  split
  · rename_i same; rw [← same, absent]
  · rfl

omit [LawfulEqOrd κ] [DecidableEq κ] in
theorem values_eq (map : ExtTreeMap κ ν) : map.values = map.toList.map Prod.snd := by
  obtain ⟨⟨inner⟩⟩ := map
  induction inner using Quotient.ind with
  | _ tree =>
    change tree.inner.values = (DTreeMap.Internal.Impl.Const.toList tree.inner).map Prod.snd
    rw [DTreeMap.Internal.Impl.values_eq_map_snd, DTreeMap.Internal.Impl.Const.toList_eq_toListModel_map,
      List.map_map]
    rfl

omit [LawfulEqOrd κ] [DecidableEq κ] in
theorem toList_nodup (map : ExtTreeMap κ ν) : map.toList.Nodup := by
  apply map.distinct_keys_toList.imp
  intro first last distinct same
  rw [same] at distinct
  exact distinct ReflCmp.compare_self

theorem toList_insert_perm (map : ExtTreeMap κ ν) {key : κ} (absent : map[key]? = none) (value : ν) :
    (map.insert key value).toList.Perm ((key, value) :: map.toList) := by
  have fresh : (key, value) ∉ map.toList := by
    rw [ExtTreeMap.mem_toList_iff_getElem?_eq_some, absent]
    exact nofun
  rw [List.perm_ext_iff_of_nodup (toList_nodup _) (List.nodup_cons.mpr ⟨fresh, toList_nodup map⟩)]
  rintro ⟨other, held⟩
  rw [List.mem_cons, ExtTreeMap.mem_toList_iff_getElem?_eq_some, ExtTreeMap.mem_toList_iff_getElem?_eq_some,
    getElem?_insert]
  by_cases same : key = other
  · subst same
    simp [absent, eq_comm]
  · simp [same, Ne.symm same]

theorem values_insert_perm (map : ExtTreeMap κ ν) {key : κ} (absent : map[key]? = none) (value : ν) :
    (map.insert key value).values.Perm (value :: map.values) := by
  rw [values_eq, values_eq]
  exact (toList_insert_perm map absent value).map Prod.snd

theorem toList_erase_perm (map : ExtTreeMap κ ν) {key : κ} {value : ν} (found : map[key]? = some value) :
    map.toList.Perm ((key, value) :: (map.erase key).toList) := by
  have absent : (map.erase key)[key]? = none := ExtTreeMap.getElem?_erase_self
  have restored : (map.erase key).insert key value = map := by
    apply ExtTreeMap.ext_getElem?
    intro other
    rw [getElem?_insert, getElem?_erase]
    split
    · rename_i same; rw [← same, found]
    · rfl
  have permuted := toList_insert_perm (map.erase key) absent value
  rwa [restored] at permuted

def total (weight : ν → Nat) (map : ExtTreeMap κ ν) : Nat :=
  (map.toList.map fun row => weight row.2).sum

variable (weight : ν → Nat)

omit [LawfulEqOrd κ] [DecidableEq κ] in
@[simp] theorem total_empty : total weight (∅ : ExtTreeMap κ ν) = 0 := by
  rw [total, ExtTreeMap.toList_eq_nil_iff.mpr rfl, List.map_nil, List.sum_nil]

theorem total_insert (map : ExtTreeMap κ ν) {key : κ} (absent : map[key]? = none) (value : ν) :
    total weight (map.insert key value) = weight value + total weight map := by
  simp only [total, ((toList_insert_perm map absent value).map _).sum_nat, List.map_cons, List.sum_cons]

theorem total_erase (map : ExtTreeMap κ ν) {key : κ} {value : ν} (found : map[key]? = some value) :
    total weight map = weight value + total weight (map.erase key) := by
  simp only [total, ((toList_erase_perm map found).map _).sum_nat, List.map_cons, List.sum_cons]

end OrdMap
