import Mathlib.Data.List.Perm.Basic
import StreamHost.Proofs.RetentionSweep

/-! Retention sweeps compose. Removals commute, so the store after two sweeps
depends only on the keys both removed together; a later sweep finds everything
expired that an earlier one did. -/

namespace StreamHost.Proofs.SweepComposition
open Std BoundedContentStore

section Removal

def removeKey (store : BoundedContentStore) (key : StoreKey) : BoundedContentStore := (store.removeExisting key).2

private theorem removeAll_store (reason : Symbol) (store : BoundedContentStore) (keys : List StoreKey) :
    (store.removeAll reason keys).2 = keys.foldl removeKey store := by
  induction keys generalizing store with
  | nil => rfl
  | cons key rest ih =>
    rw [List.foldl_cons, ← ih, removeAll, removeKey]
    rcases store.removeExisting key with ⟨_ | frame, next⟩
    · rfl
    · rfl

private theorem store_ext {first second : BoundedContentStore} (maxBytes : first.maxBytes = second.maxBytes)
    (usedBytes : first.usedBytes = second.usedBytes) (entries : ∀ key : StoreKey, first.entries[key]? = second.entries[key]?)
    (order : first.order = second.order) : first = second := by
  have same : first.entries = second.entries := ExtTreeMap.ext_getElem? entries
  cases first
  cases second
  cases maxBytes; cases usedBytes; cases same; cases order
  rfl

private theorem removeKey_absent {store : BoundedContentStore} {key : StoreKey} (absent : store.entries[key]? = none) :
    removeKey store key = store := congrArg Prod.snd (removeExisting_absent absent)

private theorem removeKey_found {store : BoundedContentStore} {key : StoreKey} {frame : ContentFrame}
    (found : store.entries[key]? = some frame) : removeKey store key = store.without key frame :=
  congrArg Prod.snd (removeExisting_found found)

private theorem without_other {store : BoundedContentStore} {key other : StoreKey} (apart : key ≠ other) (frame : ContentFrame) :
    (store.without key frame).entries[other]? = store.entries[other]? := by
  rw [without, OrdMap.getElem?_erase, if_neg apart]

private theorem without_comm (store : BoundedContentStore) (first second : StoreKey) (firstFrame secondFrame : ContentFrame) :
    (store.without first firstFrame).without second secondFrame =
      (store.without second secondFrame).without first firstFrame := by
  refine store_ext rfl ?_ (fun key => ?_) ?_
  · rw [← UInt64.toNat_inj]
    simp only [without, UInt64.toNat_saturatingSub]
    omega
  · simp only [without, OrdMap.getElem?_erase]
    by_cases isFirst : first = key <;> by_cases isSecond : second = key <;> simp [isFirst, isSecond]
  · simp only [without, List.filter_filter, Bool.and_comm]

private theorem removeKey_comm (store : BoundedContentStore) (first second : StoreKey) :
    removeKey (removeKey store first) second = removeKey (removeKey store second) first := by
  by_cases same : first = second
  · rw [same]
  · cases firstFound : store.entries[first]? with
    | none =>
      rw [removeKey_absent firstFound]
      cases secondFound : store.entries[second]? with
      | none => rw [removeKey_absent secondFound, removeKey_absent firstFound]
      | some secondFrame =>
        rw [removeKey_found secondFound, removeKey_absent ((without_other (Ne.symm same) _).trans firstFound)]
    | some firstFrame =>
      rw [removeKey_found firstFound]
      cases secondFound : store.entries[second]? with
      | none =>
        rw [removeKey_absent secondFound, removeKey_absent ((without_other same _).trans secondFound),
          removeKey_found firstFound]
      | some secondFrame =>
        rw [removeKey_found secondFound, removeKey_found ((without_other same _).trans secondFound),
          removeKey_found ((without_other (Ne.symm same) _).trans firstFound), without_comm]

instance : RightCommutative removeKey := ⟨removeKey_comm⟩

end Removal

section Ticks
variable {adaptHz : UInt16} {windows : List RetentionWindow}

private theorem sweep_store (nowTick : UInt64) (adaptHz : UInt16) (windows : List RetentionWindow) (store : BoundedContentStore) :
    (store.sweepRetention nowTick adaptHz windows).2 = (store.expiredKeys nowTick adaptHz windows).foldl removeKey store :=
  removeAll_store _ _ _

/-- Frames only grow older: saturation and rounding keep the order of ages. -/
theorem expired_mono {earlier later : UInt64} (ordered : earlier ≤ later) {frame : ContentFrame}
    (gone : expired earlier adaptHz windows frame = true) : expired later adaptHz windows frame = true := by
  rw [expired, Option.all_eq_true] at gone ⊢
  intro window matched
  have old := gone window matched
  rw [decide_eq_true_iff, RetentionSweep.expired_iff] at old ⊢
  have older : RetentionSweep.scaledAge earlier frame ≤ RetentionSweep.scaledAge later frame := by
    rw [UInt64.le_iff_toNat_le] at ordered
    unfold RetentionSweep.scaledAge
    omega
  exact ⟨Nat.le_trans old.1 older, old.2⟩

/-- What the second sweep removes is what the later tick alone would, less what is gone already. -/
theorem mem_expiredKeys_again {earlier later : UInt64} {store : BoundedContentStore} {key : StoreKey} :
    key ∈ (store.sweepRetention earlier adaptHz windows).2.expiredKeys later adaptHz windows ↔
      key ∉ store.expiredKeys earlier adaptHz windows ∧ key ∈ store.expiredKeys later adaptHz windows := by
  rw [mem_expiredKeys, mem_expiredKeys later, (sweep_removes earlier adaptHz windows store).entries]
  split
  · rename_i removed
    exact iff_of_false nofun fun both => both.1 removed
  · rename_i kept
    exact (and_iff_right kept).symm

private theorem expiredKeys_perm {earlier later : UInt64} (ordered : earlier ≤ later) (store : BoundedContentStore) :
    (store.expiredKeys earlier adaptHz windows ++
      (store.sweepRetention earlier adaptHz windows).2.expiredKeys later adaptHz windows).Perm
        (store.expiredKeys later adaptHz windows) := by
  have apart : (store.expiredKeys earlier adaptHz windows).Disjoint
      ((store.sweepRetention earlier adaptHz windows).2.expiredKeys later adaptHz windows) :=
    fun key first second => (mem_expiredKeys_again.mp second).1 first
  have once := (expiredKeys_nodup earlier adaptHz windows store).append (expiredKeys_nodup later adaptHz windows _) apart
  apply (List.perm_ext_iff_of_nodup once (expiredKeys_nodup later adaptHz windows store)).mpr
  intro key
  rw [List.mem_append, mem_expiredKeys_again]
  constructor
  · rintro (first | ⟨_, second⟩)
    · obtain ⟨frame, stored, gone⟩ := (mem_expiredKeys earlier adaptHz windows).mp first
      exact (mem_expiredKeys later adaptHz windows).mpr ⟨frame, stored, expired_mono ordered gone⟩
    · exact second
  · intro gone
    by_cases first : key ∈ store.expiredKeys earlier adaptHz windows
    · exact .inl first
    · exact .inr ⟨first, gone⟩

end Ticks

section Windows
variable {windows others : List RetentionWindow}

def receipt (window : RetentionWindow) : Symbol × UInt64 := (window.session, window.receiptSeq)

private theorem firstWindow_receipt {frame : ContentFrame} {window : RetentionWindow}
    (found : firstWindow windows frame = some window) :
    window ∈ windows ∧ receipt window = (frame.session, frame.receiptSeq) := by
  have same := List.find?_some (p := fun window : RetentionWindow =>
    decide (window.session = frame.session ∧ window.receiptSeq = frame.receiptSeq)) found
  obtain ⟨session, receiptSeq⟩ := of_decide_eq_true same
  exact ⟨List.mem_of_find?_eq_some found, Prod.ext session receiptSeq⟩

private theorem firstWindow_iff (distinct : (windows.map receipt).Nodup) {frame : ContentFrame} {window : RetentionWindow} :
    firstWindow windows frame = some window ↔ window ∈ windows ∧ receipt window = (frame.session, frame.receiptSeq) := by
  refine ⟨firstWindow_receipt, ?_⟩
  intro ⟨listed, same⟩
  cases found : firstWindow windows frame with
  | none =>
    have other := List.find?_eq_none.mp found window listed
    exact absurd (decide_eq_true (Prod.mk.inj same)) other
  | some first =>
    obtain ⟨firstListed, firstSame⟩ := firstWindow_receipt found
    rw [List.inj_on_of_nodup_map distinct firstListed listed (firstSame.trans same.symm)]

/-- When no two windows share a receipt, the order of the windows does not matter. -/
theorem firstWindow_perm (perm : windows.Perm others) (distinct : (windows.map receipt).Nodup) (frame : ContentFrame) :
    firstWindow others frame = firstWindow windows frame := by
  have otherDistinct : (others.map receipt).Nodup := (perm.map receipt).nodup_iff.mp distinct
  apply Option.ext
  intro window
  rw [firstWindow_iff distinct, firstWindow_iff otherDistinct, perm.mem_iff]

private theorem sweepRetention_perm (perm : windows.Perm others) (distinct : (windows.map receipt).Nodup) (nowTick : UInt64)
    (adaptHz : UInt16) (store : BoundedContentStore) :
    store.sweepRetention nowTick adaptHz others = store.sweepRetention nowTick adaptHz windows := by
  have same : expired nowTick adaptHz others = expired nowTick adaptHz windows := by
    funext frame
    rw [expired, firstWindow_perm perm distinct, expired]
  rw [sweepRetention, same, sweepRetention]

end Windows

/-- Two sweeps in the order of their ticks amount to the second one, and evict together
what it evicts; the windows may come in any order. -/
structure Composes (adaptHz : UInt16) (windows : List RetentionWindow) (store : BoundedContentStore) : Prop where
  stores : ∀ earlier later, earlier ≤ later →
    ((store.sweepRetention earlier adaptHz windows).2.sweepRetention later adaptHz windows).2 =
      (store.sweepRetention later adaptHz windows).2
  evicted : ∀ earlier later, earlier ≤ later →
    ((store.sweepRetention earlier adaptHz windows).1 ++
      ((store.sweepRetention earlier adaptHz windows).2.sweepRetention later adaptHz windows).1).Perm
        (store.sweepRetention later adaptHz windows).1
  repeated : ∀ tick, (store.sweepRetention tick adaptHz windows).2.sweepRetention tick adaptHz windows =
    ([], (store.sweepRetention tick adaptHz windows).2)
  reordered : ∀ others, windows.Perm others → (windows.map receipt).Nodup → ∀ tick,
    store.sweepRetention tick adaptHz others = store.sweepRetention tick adaptHz windows

section Compose
variable (adaptHz : UInt16) (windows : List RetentionWindow) (store : BoundedContentStore)

private theorem sweeps_store {earlier later : UInt64} (ordered : earlier ≤ later) :
    ((store.sweepRetention earlier adaptHz windows).2.sweepRetention later adaptHz windows).2 =
      (store.sweepRetention later adaptHz windows).2 := by
  calc ((store.sweepRetention earlier adaptHz windows).2.sweepRetention later adaptHz windows).2
    _ = (store.expiredKeys earlier adaptHz windows ++
          (store.sweepRetention earlier adaptHz windows).2.expiredKeys later adaptHz windows).foldl removeKey store := by
      rw [sweep_store, sweep_store earlier, List.foldl_append]
    _ = (store.expiredKeys later adaptHz windows).foldl removeKey store := (expiredKeys_perm ordered store).foldl_eq store
    _ = (store.sweepRetention later adaptHz windows).2 := (sweep_store later adaptHz windows store).symm

private theorem sweeps_evicted {earlier later : UInt64} (ordered : earlier ≤ later) :
    ((store.sweepRetention earlier adaptHz windows).1 ++
      ((store.sweepRetention earlier adaptHz windows).2.sweepRetention later adaptHz windows).1).Perm
        (store.sweepRetention later adaptHz windows).1 := by
  rw [sweep_reports, sweep_reports, sweep_reports, ← List.map_append]
  exact (expiredKeys_perm ordered store).map _

/-- Retention sweeps of any store compose. -/
theorem sweeps_compose : Composes adaptHz windows store where
  stores _ _ ordered := sweeps_store adaptHz windows store ordered
  evicted _ _ ordered := sweeps_evicted adaptHz windows store ordered
  repeated tick := by
    have lengths := (sweeps_evicted adaptHz windows store (UInt64.le_refl tick)).length_eq
    rw [List.length_append, Nat.add_eq_left, List.length_eq_zero_iff] at lengths
    exact Prod.ext lengths (sweeps_store adaptHz windows store (UInt64.le_refl tick))
  reordered _ perm distinct tick := sweepRetention_perm perm distinct tick adaptHz store

end Compose

/-- A frame of another session than `sizedFrame`. -/
def briefFrame : ContentFrame := { sizedFrame "brief" 3 with session := .new "walk" }

def walkStore : BoundedContentStore := (((emptyStore 10).insert (sizedFrame "long" 4)).2.insert briefFrame).2

/-- The brief frame is to go at the first tick and the other at the second. -/
def walkWindows : List RetentionWindow := [⟨.new "walk", 1, 500⟩, ⟨.new "session", 1, 1500⟩]

theorem walk_sweeps_compose :
    ((walkStore.sweepRetention 1 1 walkWindows).2.sweepRetention 2 1 walkWindows).2 =
        (walkStore.sweepRetention 2 1 walkWindows).2 ∧
      ((walkStore.sweepRetention 1 1 walkWindows).1 ++
        ((walkStore.sweepRetention 1 1 walkWindows).2.sweepRetention 2 1 walkWindows).1).Perm
          (walkStore.sweepRetention 2 1 walkWindows).1 ∧
      walkStore.sweepRetention 2 1 walkWindows.reverse = walkStore.sweepRetention 2 1 walkWindows := by
  have composes := sweeps_compose 1 walkWindows walkStore
  refine ⟨composes.stores 1 2 (by decide), composes.evicted 1 2 (by decide), ?_⟩
  exact composes.reordered walkWindows.reverse (List.reverse_perm walkWindows).symm (by decide) 2

end StreamHost.Proofs.SweepComposition
