import StreamHost.Proofs.OldestFirst

/-! The reports of a content store say all there is to know about it. A caller that notes
down what it inserted and strikes out what was reported evicted has the store's own frames,
in the store's own order, without ever looking at it. -/

namespace StreamHost.Proofs.StoreLedger
open Std BoundedContentStore OldestFirst

/-- What a caller knows: its frames by key, oldest first, and how many it has lost. -/
structure Ledger where
  frames : StoreKey → Option ContentFrame
  order : List StoreKey
  lost : Nat

namespace Ledger

def empty : Ledger := ⟨fun _ => none, [], 0⟩

def strike (evicted : List StoreEvicted) (ledger : Ledger) : Ledger where
  frames key := if key ∈ evicted.map StoreEvicted.key then none else ledger.frames key
  order := ledger.order.filter (· ∉ evicted.map StoreEvicted.key)
  lost := ledger.lost + evicted.length

def enter (frame : ContentFrame) (ledger : Ledger) : Ledger where
  frames key := if key = frame.key then some frame else ledger.frames key
  order := ledger.order ++ [frame.key]
  lost := ledger.lost

/-- A call and its answer, noted down. -/
def note (ledger : Ledger) (event : Machine.Event BoundedContentStore StoreCall StoreAnswer) : Ledger :=
  match event.input, event.output with
  | .insert frame, .inserted (.ok evicted) => (ledger.strike evicted).enter frame
  | .sweepRetention _ _ _, .swept evicted => ledger.strike evicted
  | _, _ => ledger

end Ledger

/-- The insertions that were accepted. -/
def accepted (events : List (Machine.Event BoundedContentStore StoreCall StoreAnswer)) : Nat :=
  events.countP fun event => match event.output with
    | .inserted (.ok _) => true
    | _ => false

/-- The ledger has these frames in this order, and what is stored and what is lost is all
that was ever accepted. -/
structure Mirrors (stored : StoreKey → Option ContentFrame) (keys : List StoreKey) (count : Nat) (ledger : Ledger) :
    Prop where
  frames : ledger.frames = stored
  order : ledger.order = keys
  balance : count = keys.length + ledger.lost

/-- Every report is of a stored frame, and no frame is reported twice by one call. -/
structure Reports (store : BoundedContentStore) (evicted : List StoreEvicted) : Prop where
  once : (evicted.map StoreEvicted.key).Nodup
  stored : ∀ item ∈ evicted, store.contains item.key = true

private theorem mem_order {store : BoundedContentStore} (inOrder : Listed store) {key : StoreKey} :
    key ∈ store.order ↔ store.contains key = true := by
  rw [contains, ExtTreeMap.contains_eq_isSome_getElem?, Option.isSome_iff_exists]
  exact inOrder.listed key

theorem Reports.inside {store : BoundedContentStore} {evicted : List StoreEvicted} (reports : Reports store evicted)
    (inOrder : Listed store) : ∀ key ∈ evicted.map StoreEvicted.key, key ∈ store.order := by
  intro key member
  obtain ⟨item, listed, rfl⟩ := List.mem_map.mp member
  exact (mem_order inOrder).mpr (reports.stored item listed)

private theorem length_filter_notMem {keys order : List StoreKey} (once : order.Nodup) (distinct : keys.Nodup)
    (inside : ∀ key ∈ keys, key ∈ order) : (order.filter (· ∉ keys)).length + keys.length = order.length := by
  have kept : (order.filter fun key => decide (key ∈ keys)).Perm keys := by
    apply (List.perm_ext_iff_of_nodup (once.filter _) distinct).mpr
    intro key
    rw [List.mem_filter, decide_eq_true_iff]
    exact ⟨fun both => both.2, fun member => ⟨inside key member, member⟩⟩
  have split := order.length_eq_length_filter_add fun key => decide (key ∈ keys)
  simp only [kept.length_eq, ← decide_not] at split
  omega

section Notes
variable {stored : StoreKey → Option ContentFrame} {order : List StoreKey} {count : Nat} {ledger : Ledger}
  (mirrors : Mirrors stored order count ledger)
include mirrors

private theorem Mirrors.strike {evicted : List StoreEvicted} (once : order.Nodup) (distinct : (evicted.map StoreEvicted.key).Nodup)
    (inside : ∀ key ∈ evicted.map StoreEvicted.key, key ∈ order) :
    Mirrors (fun key => if key ∈ evicted.map StoreEvicted.key then none else stored key)
      (order.filter (· ∉ evicted.map StoreEvicted.key)) count (ledger.strike evicted) := by
  obtain ⟨rfl, rfl, balance⟩ := mirrors
  refine ⟨rfl, rfl, ?_⟩
  have lengths := length_filter_notMem once distinct inside
  rw [List.length_map] at lengths
  change count = _ + (ledger.lost + evicted.length)
  omega

theorem Mirrors.enter (frame : ContentFrame) :
    Mirrors (fun key => if key = frame.key then some frame else stored key) (order ++ [frame.key]) (count + 1)
      (ledger.enter frame) := by
  obtain ⟨rfl, rfl, balance⟩ := mirrors
  refine ⟨rfl, rfl, ?_⟩
  rw [List.length_append, List.length_singleton]
  change count + 1 = _ + ledger.lost
  omega

end Notes

section Calls
variable {store : BoundedContentStore}

private theorem evicted_keys {frame : ContentFrame} {after : BoundedContentStore} {evicted : List StoreEvicted}
    {gone kept : List StoreKey} (evicts : EvictsOldest frame store after evicted gone kept) :
    evicted.map StoreEvicted.key = (if store.contains frame.key then [frame.key] else []) ++ gone := by
  rw [evicts.reported, List.map_append, List.map_map]
  congr 1
  · split <;> rfl
  · exact List.map_id gone

/-- What an insertion reports are stored frames; the order without them is the order it keeps. -/
theorem evicted_reports {frame : ContentFrame} {after : BoundedContentStore} {evicted : List StoreEvicted}
    {gone kept : List StoreKey} (inOrder : Listed store) (evicts : EvictsOldest frame store after evicted gone kept) :
    Reports store evicted ∧ store.order.filter (· ∉ evicted.map StoreEvicted.key) = kept := by
  have others : (gone ++ kept).Nodup := evicts.oldest ▸ inOrder.once.filter _
  obtain ⟨distinct, _, apart⟩ := List.nodup_append.mp others
  have other : ∀ key ∈ gone, key ∈ store.order ∧ key ≠ frame.key := by
    intro key member
    have both := List.mem_append_left kept member
    rw [← evicts.oldest, List.mem_filter, decide_eq_true_iff] at both
    exact both
  have keys := evicted_keys evicts
  refine ⟨⟨?_, ?_⟩, ?_⟩
  · rw [keys]
    split
    · refine List.nodup_cons.mpr ⟨?_, distinct⟩
      intro member
      exact (other frame.key member).2 rfl
    · exact distinct
  · intro item member
    have listed : item.key ∈ evicted.map StoreEvicted.key := List.mem_map_of_mem member
    rw [keys, List.mem_append] at listed
    obtain replaced | member := listed
    · split at replaced
      · rename_i held
        rwa [List.mem_singleton.mp replaced]
      · cases replaced
    · exact (mem_order inOrder).mp (other _ member).1
  · have split : store.order.filter (· ∉ evicted.map StoreEvicted.key) =
        (store.order.filter (· ≠ frame.key)).filter (· ∉ gone) := by
      rw [List.filter_filter]
      apply List.filter_congr
      intro key listed
      rw [keys]
      by_cases same : key = frame.key
      · have held := (mem_order inOrder).mp listed
        rw [same] at held
        simp [same, held]
      · cases store.contains frame.key <;> simp [same]
    rw [split, evicts.oldest, List.filter_append, List.filter_eq_nil_iff.mpr (by simp), List.nil_append]
    apply List.filter_eq_self.mpr
    intro key member
    refine decide_eq_true ?_
    intro early
    exact apart key early key member rfl

private theorem order_removeAll (inOrder : Listed store) (tidy : Tidy store) (reason : Symbol) (keys : List StoreKey) :
    (store.removeAll reason keys).2.order = store.order.filter (· ∉ keys) := by
  induction keys generalizing store with
  | nil => exact (List.filter_eq_self.mpr fun key _ => rfl).symm
  | cons key rest ih =>
    have removed := order_removeExisting inOrder key
    have tidier := removeExisting_tidy tidy key
    rw [removeAll]
    generalize store.removeExisting key = result at removed tidier
    have later := ih tidier.inOrder tidier
    rw [removed, List.filter_filter] at later
    obtain ⟨_ | frame, next⟩ := result
    all_goals
      refine later.trans (List.filter_congr fun other _ => ?_)
      simp [Bool.and_comm]

private theorem sweep_noted (tidy : Tidy store) (nowTick : UInt64) (adaptHz : UInt16) (windows : List RetentionWindow) :
    Reports store (store.sweepRetention nowTick adaptHz windows).1 ∧
      (store.sweepRetention nowTick adaptHz windows).2.order =
        store.order.filter (· ∉ (store.sweepRetention nowTick adaptHz windows).1.map StoreEvicted.key) := by
  have reported := sweep_reports nowTick adaptHz windows store
  have keys : (store.sweepRetention nowTick adaptHz windows).1.map StoreEvicted.key =
      store.expiredKeys nowTick adaptHz windows := by
    rw [reported, List.map_map]
    exact List.map_id _
  refine ⟨⟨?_, ?_⟩, ?_⟩
  · rw [keys]
    exact expiredKeys_nodup nowTick adaptHz windows store
  · intro item member
    have listed : item.key ∈ store.expiredKeys nowTick adaptHz windows := keys ▸ List.mem_map_of_mem member
    obtain ⟨frame, found, _⟩ := (mem_expiredKeys nowTick adaptHz windows).mp listed
    rw [contains, ExtTreeMap.contains_eq_isSome_getElem?, found]
    rfl
  · rw [keys]
    exact order_removeAll tidy.inOrder tidy retentionReason _

end Calls

abbrev StoreEvent := Machine.Event BoundedContentStore StoreCall StoreAnswer

def reportsOf (event : StoreEvent) : List StoreEvicted :=
  match event.output with
  | .inserted (.ok evicted) | .swept evicted => evicted
  | .inserted (.error _) => []

/-- One call keeps the mirror. -/
theorem event_noted {store : BoundedContentStore} (tidy : Tidy store) (call : StoreCall) {count : Nat} {ledger : Ledger}
    (mirrors : Mirrors (store.entries[·]?) store.order count ledger) :
    let event := machine.event store call
    Mirrors (event.after.entries[·]?) event.after.order (count + accepted [event]) (ledger.note event) ∧
      Reports store (reportsOf event) := by
  cases call with
  | insert frame =>
    have shape : machine.event store (.insert frame) =
        ⟨store, .insert frame, .inserted (store.insert frame).1, (store.insert frame).2⟩ := rfl
    rw [shape]
    by_cases large : store.maxBytes < frame.sizeBytes
    · rw [insert_rejects large]
      exact ⟨mirrors, ⟨List.nodup_nil, List.forall_mem_nil _⟩⟩
    · obtain ⟨⟨evicted, gone, kept, answered, evicts⟩, _⟩ := insert_evicts tidy large
      obtain ⟨reports, remaining⟩ := evicted_reports tidy.inOrder evicts
      rw [answered]
      refine ⟨?_, reports⟩
      have noted := (mirrors.strike tidy.inOrder.once reports.once (reports.inside tidy.inOrder)).enter frame
      rw [remaining, ← evicts.order] at noted
      have frames : (fun key => if key = frame.key then some frame else
          if key ∈ evicted.map StoreEvicted.key then none else store.entries[key]?) =
            ((store.insert frame).2.entries[·]?) := by
        funext key
        rw [evicts.entries, evicted_keys evicts]
        by_cases same : key = frame.key
        · rw [if_pos same, if_pos same]
        · have listed : key ∈ (if store.contains frame.key then [frame.key] else []) ++ gone ↔ key ∈ gone := by
            split <;> simp [same]
          simp only [listed]
      rw [frames] at noted
      exact noted
  | sweepRetention nowTick adaptHz windows =>
    obtain ⟨reports, remaining⟩ := sweep_noted tidy nowTick adaptHz windows
    refine ⟨?_, reports⟩
    have noted := mirrors.strike tidy.inOrder.once reports.once (reports.inside tidy.inOrder)
    have frames : (fun key => if key ∈ (store.sweepRetention nowTick adaptHz windows).1.map StoreEvicted.key then none
        else store.entries[key]?) = ((store.sweepRetention nowTick adaptHz windows).2.entries[·]?) := by
      funext key
      rw [(sweep_removes nowTick adaptHz windows store).entries, sweep_reports, List.map_map]
      exact if_congr (Iff.of_eq (congrArg (key ∈ ·) (List.map_id _))) rfl rfl
    rw [← remaining, frames] at noted
    exact noted

/-- A caller's ledger, kept from the answers of a run alone, is the store: the same frames
under the same keys, oldest first. What was accepted is what is stored and what was
reported lost, and every report was of a frame that was stored, once. -/
theorem reports_reconstruct_store {maxBytes : UInt64} {store : BoundedContentStore} (created : new maxBytes = .ok store)
    (calls : List StoreCall) :
    Mirrors ((machine.final store calls).entries[·]?) (machine.final store calls).order
      (accepted (machine.trace store calls)) ((machine.trace store calls).foldl Ledger.note .empty) ∧
    ∀ event ∈ machine.trace store calls, Reports event.before (reportsOf event) := by
  have started : Tidy store := ⟨(new_sound created).1.inOrder, fun _ => (new_sound created).1.exact⟩
  have initial : Mirrors (store.entries[·]?) store.order 0 .empty := by
    unfold BoundedContentStore.new at created
    split at created
    · cases created
    · cases created
      exact ⟨funext fun key => ExtTreeMap.getElem?_empty.symm, rfl, rfl⟩
  have run := machine.history (fun past current => Tidy current ∧
    Mirrors (current.entries[·]?) current.order (accepted past) (past.foldl Ledger.note .empty) ∧
      ∀ event ∈ past, Reports event.before (reportsOf event)) ?_ ⟨started, initial, List.forall_mem_nil _⟩ calls
  · exact run.2
  intro past current call holds
  obtain ⟨tidy, mirrors, reports⟩ := holds
  obtain ⟨noted, reported⟩ := event_noted tidy call mirrors
  refine ⟨step_tidy current call tidy, ?_, List.forall_mem_append.mpr ⟨reports, List.forall_mem_singleton.mpr reported⟩⟩
  rw [List.foldl_concat, accepted, List.countP_append]
  exact noted

theorem two_frames_reconstruct_store :
    let calls : List StoreCall := [.insert (sizedFrame "first" 6), .insert (sizedFrame "second" 7), .sweepRetention 9 1 []]
    Mirrors ((machine.final (emptyStore 10) calls).entries[·]?) (machine.final (emptyStore 10) calls).order
      (accepted (machine.trace (emptyStore 10) calls)) ((machine.trace (emptyStore 10) calls).foldl Ledger.note .empty) ∧
    ∀ event ∈ machine.trace (emptyStore 10) calls, Reports event.before (reportsOf event) :=
  reports_reconstruct_store (new_emptyStore (by decide)) _

end StreamHost.Proofs.StoreLedger
