import Mathlib.Algebra.Order.BigOperators.Group.List
import Mathlib.Algebra.Order.Ring.Nat

/-! First fit: items are taken in order as long as they fit beside the items taken
before, and the others are skipped. In a sorted list no item is skipped for a later one. -/

namespace FirstFit
variable {α : Type} (weight : α → Nat) (capacity : Nat)

def load (items : List α) : Nat := (items.map weight).sum

/-- The items taken when `used` of the capacity is in use. -/
def taken : Nat → List α → List α
  | _, [] => []
  | used, item :: rest =>
    if used + weight item ≤ capacity then item :: taken (used + weight item) rest else taken used rest

def skipped : Nat → List α → List α
  | _, [] => []
  | used, item :: rest =>
    if used + weight item ≤ capacity then skipped (used + weight item) rest else item :: skipped used rest

variable {weight capacity}

@[simp]
theorem load_cons (item : α) (rest : List α) : load weight (item :: rest) = weight item + load weight rest := by
  rw [load, List.map_cons, List.sum_cons, load]

theorem taken_sublist (used : Nat) (items : List α) : (taken weight capacity used items).Sublist items := by
  induction items generalizing used with
  | nil => exact .refl _
  | cons item rest ih =>
    rw [taken]
    split
    · exact (ih _).cons_cons item
    · exact (ih used).cons item

theorem skipped_sublist (used : Nat) (items : List α) : (skipped weight capacity used items).Sublist items := by
  induction items generalizing used with
  | nil => exact .refl _
  | cons item rest ih =>
    rw [skipped]
    split
    · exact (ih _).cons item
    · exact (ih used).cons_cons item

theorem taken_append_skipped_perm (used : Nat) (items : List α) :
    (taken weight capacity used items ++ skipped weight capacity used items).Perm items := by
  induction items generalizing used with
  | nil => exact .refl _
  | cons item rest ih =>
    rw [taken, skipped]
    split
    · exact (ih _).cons item
    · exact List.perm_middle.trans ((ih used).cons item)

theorem load_le_of_sublist {items more : List α} (sublist : items.Sublist more) : load weight items ≤ load weight more :=
  (sublist.map weight).sum_le_sum fun _ _ => Nat.zero_le _

theorem load_taken_le {used : Nat} (within : used ≤ capacity) (items : List α) :
    used + load weight (taken weight capacity used items) ≤ capacity := by
  induction items generalizing used with
  | nil => exact within
  | cons item rest ih =>
    rw [taken]
    split
    · rename_i fits
      rw [load_cons, ← Nat.add_assoc]
      exact ih fits
    · exact ih within

section Sorted
variable {before : α → α → Prop} {items : List α} (sorted : items.Pairwise before)
include sorted

/-- What is taken of the items that come first does not depend on the others. -/
theorem filter_taken {high : α → Bool} (closed : ∀ first second, before first second → high second → high first)
    (used : Nat) :
    (taken weight capacity used items).filter high = taken weight capacity used (items.filter high) := by
  induction items generalizing used with
  | nil => rfl
  | cons item rest ih =>
    obtain ⟨ahead, restSorted⟩ := List.pairwise_cons.mp sorted
    cases highItem : high item with
    | true =>
      rw [List.filter_cons_of_pos highItem, taken, taken]
      split
      · rw [List.filter_cons_of_pos highItem, ih restSorted]
      · exact ih restSorted used
    | false =>
      have low : ∀ other ∈ item :: rest, ¬ high other := by
        intro other member highOther
        rcases List.mem_cons.mp member with rfl | later
        · rw [highItem] at highOther
          cases highOther
        · rw [closed item other (ahead other later) highOther] at highItem
          cases highItem
      rw [List.filter_eq_nil_iff.mpr low]
      exact List.filter_eq_nil_iff.mpr fun other member => low other ((taken_sublist used _).subset member)

/-- A skipped item did not fit beside the items taken before it. -/
theorem lt_of_mem_skipped [DecidableRel before] (used : Nat) : ∀ item ∈ skipped weight capacity used items,
    capacity < used + load weight ((taken weight capacity used items).filter (before · item)) + weight item := by
  induction items generalizing used with
  | nil => exact List.forall_mem_nil _
  | cons head rest ih =>
    obtain ⟨ahead, restSorted⟩ := List.pairwise_cons.mp sorted
    intro item member
    rw [skipped] at member
    rw [taken]
    split at member
    · rename_i fits
      have later : before head item := ahead item ((skipped_sublist _ rest).subset member)
      have full := ih restSorted _ item member
      rw [if_pos fits, List.filter_cons, if_pos (decide_eq_true later), load_cons]
      omega
    · rename_i full
      rw [if_neg full]
      rcases List.mem_cons.mp member with rfl | member
      · omega
      · exact ih restSorted used item member

end Sorted

end FirstFit
