import StreamHost.Proofs.ContentStore

/-! What one insertion evicts from a store reached by any run: the frame it
replaces, then the oldest others, no more of them than needed. At the greatest
bound the account may saturate, but there the guard of the loop never fires. -/

namespace StreamHost.Proofs.OldestFirst
open Std BoundedContentStore

/-- The order lists each stored key once, and below the greatest bound the account is exact. -/
structure Tidy (store : BoundedContentStore) : Prop where
  inOrder : Listed store
  exact : store.maxBytes.toNat < UInt64.greatest → store.usedBytes.toNat = store.bytes

theorem Tidy.sound {store : BoundedContentStore} (tidy : Tidy store) (below : store.maxBytes.toNat < UInt64.greatest) :
    Sound store := ⟨tidy.inOrder.once, tidy.inOrder.listed, tidy.exact below⟩

def Tight (sizeBytes : UInt64) (store : BoundedContentStore) : Prop :=
  store.maxBytes < store.usedBytes.saturatingAdd sizeBytes

theorem Tight.below {sizeBytes : UInt64} {store : BoundedContentStore} (tight : Tight sizeBytes store) :
    store.maxBytes.toNat < UInt64.greatest :=
  Nat.lt_of_lt_of_le (UInt64.lt_iff_toNat_lt.mp tight) (UInt64.toNat_le_greatest _)

/-- The eviction loop comes to its `break`: the guard fires and nothing is left to evict. -/
inductive Breaks (sizeBytes : UInt64) : BoundedContentStore → Prop where
  | here {store : BoundedContentStore} (tight : Tight sizeBytes store)
      (stuck : (store.evictOldest sizeBoundReason).1 = none) : Breaks sizeBytes store
  | later {store next : BoundedContentStore} {item : StoreEvicted} (tight : Tight sizeBytes store)
      (evicted : store.evictOldest sizeBoundReason = (some item, next)) (breaks : Breaks sizeBytes next) :
      Breaks sizeBytes store

section Loop
variable {store : BoundedContentStore} {sizeBytes : UInt64}

theorem Tidy.without (tidy : Tidy store) {key : StoreKey} {frame : ContentFrame}
    (found : store.entries[key]? = some frame) : Tidy (store.without key frame) :=
  ⟨tidy.inOrder.without frame, fun below => exact_without (tidy.exact below) found⟩

theorem removeExisting_tidy (tidy : Tidy store) (key : StoreKey) : Tidy (store.removeExisting key).2 := by
  cases found : store.entries[key]? with
  | none => rwa [removeExisting_absent found]
  | some frame =>
    rw [removeExisting_found found]
    exact tidy.without found

/-- As long as the guard fires there is an oldest frame to evict. -/
theorem evicts_one (tidy : Tidy store) (small : ¬ store.maxBytes < sizeBytes) (tight : Tight sizeBytes store) :
    ∃ key frame, store.entries[key]? = some frame ∧
      store.evictOldest sizeBoundReason = (some ⟨key, sizeBoundReason⟩, store.without key frame) := by
  cases order : store.order with
  | nil => exact absurd tight (fits_vacant (tidy.sound tight.below) small order)
  | cons key rest =>
    obtain ⟨frame, found, evicted⟩ := evictOldest_front tidy.inOrder sizeBoundReason order
    exact ⟨key, frame, found, evicted⟩

private theorem never_breaks (tidy : Tidy store) (small : ¬ store.maxBytes < sizeBytes) : ¬ Breaks sizeBytes store := by
  intro breaks
  induction breaks with
  | here tight stuck =>
    obtain ⟨key, frame, _, evicted⟩ := evicts_one tidy small tight
    rw [evicted] at stuck
    cases stuck
  | later tight evicted _ ih =>
    obtain ⟨key, frame, found, again⟩ := evicts_one tidy small tight
    cases evicted.symm.trans again
    exact ih (tidy.without found) small

private theorem makeRoom_tidy (tidy : Tidy store) (small : ¬ store.maxBytes < sizeBytes) :
    ∃ gone, MakesRoom sizeBytes store (store.makeRoom sizeBytes).1 (store.makeRoom sizeBytes).2 gone ∧
      Tidy (store.makeRoom sizeBytes).2 := by
  by_cases tight : Tight sizeBytes store
  · have sound := tidy.sound tight.below
    obtain ⟨gone, room⟩ := makeRoom_spec sound small
    have after := room.removes.sound sound
    exact ⟨gone, room, after.inOrder, fun _ => after.exact⟩
  · rw [makeRoom_fits tight]
    exact ⟨[], ⟨rfl, rfl, .refl store, Nat.not_lt.mp tight⟩, tidy⟩

/-- The last evicted frame would not have fitted beside the new one and those kept. -/
def LastNeeded (sizeBytes : UInt64) (before after : BoundedContentStore) (gone : List StoreKey) : Prop :=
  ∀ last, gone.getLast? = some last → ∃ frame, before.entries[last]? = some frame ∧
    before.maxBytes.toNat < after.bytes + frame.sizeBytes.toNat + sizeBytes.toNat

private theorem Removes.bytes_eq {before after : BoundedContentStore} (removes : Removes [] before after) :
    after.bytes = before.bytes := by
  have same : after.entries = before.entries := by
    apply ExtTreeMap.ext_getElem?
    intro key
    rw [removes.entries, if_neg List.not_mem_nil]
  rw [bytes, bytes, same]

private theorem makeRoom_needed (tidy : Tidy store) (small : ¬ store.maxBytes < sizeBytes) {gone : List StoreKey}
    (named : (store.makeRoom sizeBytes).1 = gone.map fun key => ⟨key, sizeBoundReason⟩) :
    LastNeeded sizeBytes store (store.makeRoom sizeBytes).2 gone := by
  induction gone generalizing store with
  | nil => exact nofun
  | cons key rest ih =>
    by_cases tight : Tight sizeBytes store
    · obtain ⟨oldest, frame, found, evicted⟩ := evicts_one tidy small tight
      rw [makeRoom_evicts tight evicted] at named ⊢
      obtain ⟨first, others⟩ := List.cons.inj named
      obtain ⟨rfl, _⟩ := StoreEvicted.mk.inj first
      have later := ih (tidy.without found) small others
      intro last isLast
      cases rest with
      | nil =>
        -- The guard has fired for the store that still held this frame.
        cases isLast
        obtain ⟨gone, room, _⟩ := makeRoom_tidy (tidy.without found) small
        obtain rfl : gone = [] := List.map_eq_nil_iff.mp (room.named.symm.trans others)
        have kept := Removes.bytes_eq room.removes
        have split := bytes_without found
        have exact := tidy.exact tight.below
        refine ⟨frame, found, ?_⟩
        have guard := UInt64.lt_iff_toNat_lt.mp tight
        rw [UInt64.toNat_saturatingAdd, exact, split] at guard
        simp only [Prod.map_snd, id_eq, kept]
        omega
      | cons second _ =>
        obtain ⟨old, stored, tight⟩ := later last isLast
        refine ⟨old, ?_, tight⟩
        rw [(removes_without found).entries] at stored
        split at stored
        · cases stored
        · exact stored
    · rw [makeRoom_fits tight] at named
      cases named

end Loop

/-- An insertion has evicted `gone`, the oldest of the others, and has kept the rest. -/
structure EvictsOldest (frame : ContentFrame) (before after : BoundedContentStore) (evicted : List StoreEvicted)
    (gone kept : List StoreKey) : Prop where
  reported : evicted = (if before.contains frame.key then [⟨frame.key, replacedReason⟩] else []) ++
    gone.map fun key => ⟨key, sizeBoundReason⟩
  oldest : before.order.filter (· ≠ frame.key) = gone ++ kept
  needed : ∀ last, gone.getLast? = some last → ∃ old, before.entries[last]? = some old ∧
    before.maxBytes.toNat < after.othersBytes frame + old.sizeBytes.toNat + frame.sizeBytes.toNat
  order : after.order = kept ++ [frame.key]
  entries : ∀ key, after.entries[key]? =
    if key = frame.key then some frame else if key ∈ gone then none else before.entries[key]?
  inOrder : Listed after

section Insert
variable {store : BoundedContentStore} {frame : ContentFrame}

theorem order_removeExisting (inOrder : Listed store) (key : StoreKey) :
    (store.removeExisting key).2.order = store.order.filter (· ≠ key) := by
  cases found : store.entries[key]? with
  | some frame => rw [removeExisting_found found, without]
  | none =>
    rw [removeExisting_absent found]
    refine (List.filter_eq_self.mpr fun other member => decide_eq_true ?_).symm
    rintro rfl
    obtain ⟨frame, stored⟩ := (inOrder.listed other).mp member
    cases found.symm.trans stored

private theorem removeExisting_isSome (key : StoreKey) : (store.removeExisting key).1.isSome = store.contains key := by
  rw [contains, ExtTreeMap.contains_eq_isSome_getElem?]
  cases found : store.entries[key]? with
  | none => rw [removeExisting_absent found]
  | some frame => rw [removeExisting_found found]

private theorem othersBytes_withFrame (absent : store.entries[frame.key]? = none) :
    (store.withFrame frame).othersBytes frame = store.bytes := by
  have same : (store.entries.insert frame.key frame).erase frame.key = store.entries := by
    apply ExtTreeMap.ext_getElem?
    intro key
    rw [OrdMap.getElem?_erase, OrdMap.getElem?_insert]
    split
    · rename_i same; rw [← same, absent]
    · rfl
  rw [othersBytes, withFrame, same, bytes]

private theorem withFrame_tidy (tidy : Tidy store) (absent : store.entries[frame.key]? = none)
    (fits : (store.usedBytes.saturatingAdd frame.sizeBytes).toNat ≤ store.maxBytes.toNat) :
    Tidy (store.withFrame frame) := by
  refine ⟨tidy.inOrder.insert absent rfl rfl, fun below => ?_⟩
  have exact := tidy.exact below
  have grown : (store.withFrame frame).bytes = frame.sizeBytes.toNat + store.bytes := OrdMap.total_insert _ _ absent frame
  have limit : store.maxBytes.toNat < UInt64.greatest := below
  rw [grown, withFrame]
  rw [UInt64.toNat_saturatingAdd] at fits ⊢
  omega

theorem insert_evicts (tidy : Tidy store) (small : ¬ store.maxBytes < frame.sizeBytes) :
    (∃ evicted gone kept, (store.insert frame).1 = .ok evicted ∧
      EvictsOldest frame store (store.insert frame).2 evicted gone kept) ∧ Tidy (store.insert frame).2 := by
  have freed := removeExisting_removes store frame.key
  have freedTidy := removeExisting_tidy tidy frame.key
  have room : ¬ (store.removeExisting frame.key).2.maxBytes < frame.sizeBytes := by rwa [freed.maxBytes]
  obtain ⟨gone, makes, roomy⟩ := makeRoom_tidy freedTidy room
  have removes : Removes (frame.key :: gone) store (store.roomFor frame) := freed.trans makes.removes
  have absent : (store.roomFor frame).entries[frame.key]? = none := by
    rw [removes.entries, if_pos List.mem_cons_self]
  have fits := makes.fits
  rw [← makes.removes.maxBytes] at fits
  have inserted : store.insert frame =
      (.ok ((if (store.removeExisting frame.key).1.isSome then [⟨frame.key, replacedReason⟩] else []) ++
        ((store.removeExisting frame.key).2.makeRoom frame.sizeBytes).1), (store.roomFor frame).withFrame frame) := by
    rw [BoundedContentStore.insert, if_neg small]
    rfl
  rw [inserted]
  refine ⟨⟨_, gone, (store.roomFor frame).order, rfl, ?_⟩, withFrame_tidy roomy absent fits⟩
  refine ⟨?_, ?_, ?_, rfl, ?_, (withFrame_tidy roomy absent fits).inOrder⟩
  · rw [removeExisting_isSome, makes.named]
  · rw [← order_removeExisting tidy.inOrder]
    exact makes.oldest
  · intro last isLast
    obtain ⟨old, stored, needed⟩ := makeRoom_needed freedTidy room makes.named last isLast
    rw [freed.maxBytes] at needed
    rw [freed.entries] at stored
    refine ⟨old, ?_, ?_⟩
    · split at stored
      · cases stored
      · exact stored
    · rw [othersBytes_withFrame absent]
      exact needed
  · intro key
    rw [withFrame, OrdMap.getElem?_insert, removes.entries]
    by_cases same : key = frame.key
    · rw [if_pos same.symm, if_pos same]
    · rw [if_neg (Ne.symm same), if_neg same]
      simp only [List.mem_cons, same, false_or]

end Insert

private theorem removeAll_tidy (reason : Symbol) {store : BoundedContentStore} (tidy : Tidy store) (keys : List StoreKey) :
    Tidy (store.removeAll reason keys).2 := by
  induction keys generalizing store with
  | nil => exact tidy
  | cons key rest ih =>
    have removed := removeExisting_tidy tidy key
    rw [removeAll]
    generalize store.removeExisting key = result at removed
    obtain ⟨_ | frame, next⟩ := result <;> exact ih removed

theorem step_tidy (store : BoundedContentStore) (call : StoreCall) (tidy : Tidy store) : Tidy (machine.step store call).2 := by
  cases call with
  | insert frame =>
    by_cases large : store.maxBytes < frame.sizeBytes
    · have rejected : (machine.step store (.insert frame)).2 = store := congrArg Prod.snd (insert_rejects large)
      rwa [rejected]
    · exact (insert_evicts tidy large).2
  | sweepRetention nowTick adaptHz windows => exact removeAll_tidy retentionReason tidy _

/-- What an insertion into the store does. -/
structure InsertsWell (store : BoundedContentStore) (frame : ContentFrame) : Prop where
  rejects : store.maxBytes < frame.sizeBytes → ∃ error, store.insert frame = (.error error, store)
  accepts : ¬ store.maxBytes < frame.sizeBytes → ∃ evicted gone kept, (store.insert frame).1 = .ok evicted ∧
    EvictsOldest frame store (store.insert frame).2 evicted gone kept
  unbroken : ¬ store.maxBytes < frame.sizeBytes → ¬ Breaks frame.sizeBytes (store.removeExisting frame.key).2

/-- After every run from a new store, an insertion evicts the oldest frames first, and
no more than needed. -/
theorem insert_evicts_oldest_first {maxBytes : UInt64} {store : BoundedContentStore} (created : new maxBytes = .ok store)
    (calls : List StoreCall) (frame : ContentFrame) : InsertsWell (machine.final store calls) frame := by
  have started : Tidy store := ⟨(new_sound created).1.inOrder, fun _ => (new_sound created).1.exact⟩
  have tidy := machine.final_preserves Tidy step_tidy started calls
  generalize machine.final store calls = reached at tidy
  refine ⟨fun large => ⟨_, insert_rejects large⟩, fun small => (insert_evicts tidy small).1, fun small => ?_⟩
  have room : ¬ (reached.removeExisting frame.key).2.maxBytes < frame.sizeBytes := by
    rwa [(removeExisting_removes reached frame.key).maxBytes]
  exact never_breaks (removeExisting_tidy tidy frame.key) room

theorem insert_replaces_and_evicts :
    InsertsWell (machine.final (emptyStore 10) [.insert (sizedFrame "first" 6), .insert (sizedFrame "second" 4)])
      (sizedFrame "second" 7) :=
  insert_evicts_oldest_first (new_emptyStore (by decide)) _ _

end StreamHost.Proofs.OldestFirst
