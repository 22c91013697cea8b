import Mathlib.Data.List.Destutter
import Mathlib.Data.List.Sort

/-! Lists sorted by a key, and sorted lists without adjacent repetitions. A stable
sort hides the order of its input exactly where a key tells all elements apart. -/

universe u v w

namespace SortOn
open Std

variable {α : Type u} {β : Type w} {κ : Type v}

/-- Elements of one key are one element. -/
def Separates (key : α → κ) (items : List α) : Prop :=
  ∀ first ∈ items, ∀ second ∈ items, key first = key second → first = second

theorem Separates.mono {key : α → κ} {items others : List α} (separates : Separates key items)
    (within : ∀ item ∈ others, item ∈ items) : Separates key others :=
  fun first member second other => separates first (within first member) second (within second other)

variable [Ord κ] (key : α → κ)

def le (first second : α) : Bool := (compare (key first) (key second)).isLE

def sort (items : List α) : List α := items.mergeSort (le key)

theorem sort_perm (items : List α) : (sort key items).Perm items := List.mergeSort_perm _ _

@[simp] theorem mem_sort (items : List α) (item : α) : item ∈ sort key items ↔ item ∈ items := List.mem_mergeSort

variable [TransOrd κ]

theorem le_total (first second : α) : (le key first second || le key second first) = true := by
  rw [Bool.or_eq_true]
  rcases h : compare (key first) (key second) with _ | _ | _
  · exact .inl (by rw [le, h]; rfl)
  · exact .inl (by rw [le, h]; rfl)
  · apply Or.inr
    rw [le, OrientedOrd.eq_swap, h]
    rfl

theorem le_trans (first second third : α) (lower : le key first second) (upper : le key second third) :
    le key first third :=
  TransCmp.isLE_trans lower upper

theorem sort_pairwise (items : List α) : (sort key items).Pairwise fun first second => le key first second :=
  List.pairwise_mergeSort (le_trans key) (le_total key) items

variable [LawfulEqOrd κ]

theorem key_eq_of_le {first second : α} (lower : le key first second) (upper : le key second first) :
    key first = key second :=
  LawfulEqOrd.eq_of_compare (OrientedCmp.isLE_antisymm lower upper)

theorem sort_eq_of_perm {items others : List α} (separates : Separates key items) (same : others.Perm items) :
    sort key others = sort key items := by
  apply List.Perm.eq_of_pairwise _ (sort_pairwise key others) (sort_pairwise key items)
    (((sort_perm key others).trans same).trans (sort_perm key items).symm)
  intro first second member other lower upper
  rw [mem_sort] at member other
  exact separates first (same.mem_iff.mp member) second other (key_eq_of_le key lower upper)

section Ties
variable [DecidableEq κ]

/-- The elements of one key stay in their order. -/
theorem filter_sort (items : List α) (value : κ) :
    (sort key items).filter (key · = value) = items.filter (key · = value) := by
  have tied : (items.filter (key · = value)).Pairwise fun first second => le key first second := by
    rw [List.pairwise_filter]
    apply List.pairwise_of_forall
    intro first second firstKey secondKey
    rw [decide_eq_true_eq] at firstKey secondKey
    rw [le, firstKey, secondKey, compare_self]
    rfl
  have kept : (items.filter (key · = value)).Sublist (sort key items) :=
    List.sublist_mergeSort (le_trans key) (le_total key) tied List.filter_sublist
  have filtered := kept.filter (key · = value)
  rw [List.filter_filter] at filtered
  simp only [Bool.and_self] at filtered
  exact (filtered.eq_of_length ((sort_perm key items).filter _).length_eq.symm).symm

end Ties

theorem exists_perm_cons_cons {items : List α} {first second : α} (member : first ∈ items) (other : second ∈ items)
    (apart : first ≠ second) : ∃ rest, (first :: second :: rest).Perm items := by
  obtain ⟨before, after, rfl⟩ := List.append_of_mem member
  have within : second ∈ before ++ after := by
    rw [List.mem_append] at other ⊢
    rcases other with held | held
    · exact .inl held
    · exact .inr ((List.mem_cons.mp held).resolve_left apart.symm)
  obtain ⟨front, back, parted⟩ := List.append_of_mem within
  refine ⟨front ++ back, ?_⟩
  have inner : (second :: (front ++ back)).Perm (before ++ after) := by
    rw [parted]
    exact List.perm_middle.symm
  exact (inner.cons first).trans List.perm_middle.symm

/-- Whatever is selected and sorted, the order of the rows shows exactly where two
selected elements share a key. -/
theorem sort_filterMap_eq_iff (select : β → Option α) (rows : List β) :
    (∀ walk other : List β, walk.Perm rows → other.Perm rows →
      sort key (walk.filterMap select) = sort key (other.filterMap select)) ↔
    Separates key (rows.filterMap select) := by
  classical
  constructor
  · intro canonical first member second other tied
    obtain ⟨row, stored, selected⟩ := List.mem_filterMap.mp member
    obtain ⟨twin, held, chosen⟩ := List.mem_filterMap.mp other
    by_cases same : row = twin
    · subst same
      exact Option.some.inj (selected.symm.trans chosen)
    · obtain ⟨rest, permuted⟩ := exists_perm_cons_cons stored held same
      have equal := canonical _ _ permuted ((List.Perm.swap row twin rest).trans permuted)
      have ties := congrArg (List.filter (key · = key first)) equal
      rw [filter_sort, filter_sort] at ties
      simp only [List.filterMap_cons, selected, chosen, List.filter_cons, tied, decide_true, if_true] at ties
      exact (List.cons.inj ties).1
  · intro separates walk other permuted permutedOther
    have left := permuted.filterMap select
    have right := permutedOther.filterMap select
    exact (sort_eq_of_perm key separates left).trans (sort_eq_of_perm key separates right).symm

section Distinct
variable {ι : Type*} [DecidableEq ι] (name : α → ι) (rank : ι → κ)

omit [Ord κ] [TransOrd κ] [LawfulEqOrd κ] in
theorem exists_mem_destutter' (items : List α) (current : α) : ∀ item ∈ current :: items,
    ∃ kept ∈ items.destutter' (fun first second => name first ≠ name second) current, name kept = name item := by
  induction items generalizing current with
  | nil =>
    intro item member
    exact ⟨item, member, rfl⟩
  | cons next rest ih =>
    intro item member
    rw [List.destutter'_cons]
    by_cases differs : name current ≠ name next
    · rw [if_pos differs]
      rcases List.mem_cons.mp member with rfl | later
      · exact ⟨item, List.mem_cons_self, rfl⟩
      · obtain ⟨kept, held, same⟩ := ih next item later
        exact ⟨kept, List.mem_cons_of_mem current held, same⟩
    · rw [if_neg differs]
      rcases List.mem_cons.mp member with rfl | later
      · exact ih item item List.mem_cons_self
      · rcases List.mem_cons.mp later with rfl | last
        · exact ⟨current, List.mem_destutter' _ _ current, not_not.mp differs⟩
        · exact ih current item (List.mem_cons_of_mem current last)

/-- Sorted by the rank of the name, then without adjacent repetitions of a name. -/
def distinct (items : List α) : List α :=
  (sort (fun item => rank (name item)) items).destutter fun first second => name first ≠ name second

omit [LawfulEqOrd κ] [TransOrd κ] in
theorem distinct_sublist (items : List α) :
    (distinct name rank items).Sublist (sort (fun item => rank (name item)) items) :=
  List.destutter_sublist _ _

variable {items : List α} (separates : Separates (fun item => rank (name item)) items)
include separates

omit [DecidableEq ι] in
/-- Neighbours of different names rise strictly, so all do. -/
theorem pairwise_of_isChain (ordered : items.Pairwise fun first second => le (fun item => rank (name item)) first second)
    (changing : items.IsChain fun first second => name first ≠ name second) :
    items.Pairwise fun first second => compare (rank (name first)) (rank (name second)) = .lt := by
  induction changing with
  | nil => exact .nil
  | singleton item => exact List.pairwise_singleton _ _
  | @cons_cons first second rest differs _ ih =>
    rw [List.pairwise_cons] at ordered
    have tail := ih (separates.mono fun item => List.mem_cons_of_mem first) ordered.2
    have atMost : (compare (rank (name first)) (rank (name second))).isLE = true := ordered.1 second List.mem_cons_self
    have lower : compare (rank (name first)) (rank (name second)) = .lt := by
      apply (Ordering.isLE_iff_eq_lt_or_eq_eq.mp atMost).resolve_right
      intro tied
      have same := separates first List.mem_cons_self second (by simp) (LawfulEqOrd.eq_of_compare tied)
      exact differs (congrArg name same)
    refine List.pairwise_cons.mpr ⟨?_, tail⟩
    intro item member
    rcases List.mem_cons.mp member with rfl | later
    · exact lower
    · exact TransCmp.lt_trans lower ((List.pairwise_cons.mp tail).1 item later)

omit [LawfulEqOrd κ] [TransOrd κ] in
theorem mem_distinct (item : α) : item ∈ distinct name rank items ↔ item ∈ items := by
  constructor
  · intro member
    exact (mem_sort _ items item).mp ((distinct_sublist name rank items).subset member)
  · intro member
    have sorted : item ∈ sort (fun item => rank (name item)) items := (mem_sort _ items item).mpr member
    cases shape : sort (fun item => rank (name item)) items with
    | nil => rw [shape] at sorted; cases sorted
    | cons first rest =>
      rw [shape] at sorted
      obtain ⟨kept, held, same⟩ := exists_mem_destutter' name rest first item sorted
      have found : kept ∈ distinct name rank items := by
        rw [distinct, shape, List.destutter_cons']
        exact held
      have within := (mem_sort _ items kept).mp ((distinct_sublist name rank items).subset found)
      rwa [← separates kept within item member (congrArg rank same)]

theorem distinct_pairwise : (distinct name rank items).Pairwise fun first second =>
    compare (rank (name first)) (rank (name second)) = .lt :=
  pairwise_of_isChain name rank (separates.mono fun item => (mem_distinct name rank separates item).mp)
    ((sort_pairwise (fun item => rank (name item)) items).sublist (distinct_sublist name rank items))
    (List.isChain_destutter _ _)

theorem distinct_nodup : ((distinct name rank items).map name).Nodup := by
  rw [List.nodup_iff_pairwise_ne, List.pairwise_map]
  apply (distinct_pairwise name rank separates).imp
  intro first second lower same
  rw [same, compare_self] at lower
  cases lower

theorem distinct_eq_of_mem_iff {others : List α} (same : ∀ item, item ∈ others ↔ item ∈ items) :
    distinct name rank others = distinct name rank items := by
  have apart : Separates (fun item => rank (name item)) others := separates.mono fun item => (same item).mp
  apply List.Perm.eq_of_pairwise _ (distinct_pairwise name rank apart) (distinct_pairwise name rank separates)
  · rw [List.perm_ext_iff_of_nodup (distinct_nodup name rank apart).of_map (distinct_nodup name rank separates).of_map]
    intro item
    rw [mem_distinct name rank apart, mem_distinct name rank separates, same]
  · intro first second _ _ lower upper
    exact absurd (TransCmp.lt_trans lower upper) (by rw [compare_self]; exact nofun)

end Distinct

end SortOn
