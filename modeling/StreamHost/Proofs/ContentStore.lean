import StreamHost.StoreEvict

/-! The content store's order lists each stored key once and its byte account is
the sum of the stored frames. What one insertion and one sweep do follows from
what removing one key does. -/

namespace StreamHost.BoundedContentStore
open Std

def bytes (store : BoundedContentStore) : Nat := OrdMap.total (·.sizeBytes.toNat) store.entries

/-- The order lists each stored key once. -/
structure Listed (store : BoundedContentStore) : Prop where
  once : store.order.Nodup
  listed : ∀ key, key ∈ store.order ↔ ∃ frame, store.entries[key]? = some frame

/-- The order lists each stored key once and the account is exact. -/
structure Sound (store : BoundedContentStore) : Prop where
  once : store.order.Nodup
  listed : ∀ key, key ∈ store.order ↔ ∃ frame, store.entries[key]? = some frame
  exact : store.usedBytes.toNat = store.bytes

theorem Sound.inOrder {store : BoundedContentStore} (sound : Sound store) : Listed store := ⟨sound.once, sound.listed⟩

theorem new_sound {maxBytes : UInt64} {store : BoundedContentStore} (created : new maxBytes = .ok store) :
    Sound store ∧ store.bytes = 0 ∧ store.maxBytes = maxBytes := by
  unfold new at created
  split at created
  · cases created
  · cases created
    exact ⟨⟨List.nodup_nil, by simp [emptyStore], rfl⟩, OrdMap.total_empty _, rfl⟩

def sizedFrame (name : String) (sizeBytes : UInt64) : ContentFrame :=
  ⟨.named name, .new "session", 1, 0, sizeBytes, .nil⟩

theorem new_emptyStore {maxBytes : UInt64} (positive : maxBytes ≠ 0) : new maxBytes = .ok (emptyStore maxBytes) :=
  if_neg positive

section Remove
variable {store : BoundedContentStore} {key : StoreKey} {frame : ContentFrame}

theorem removeExisting_absent (absent : store.entries[key]? = none) : store.removeExisting key = (none, store) := by
  rw [removeExisting, absent]

theorem removeExisting_found (found : store.entries[key]? = some frame) :
    store.removeExisting key = (some frame, store.without key frame) := by
  rw [removeExisting, found]

theorem bytes_without (found : store.entries[key]? = some frame) :
    store.bytes = frame.sizeBytes.toNat + (store.without key frame).bytes := OrdMap.total_erase _ _ found

theorem Listed.without (inOrder : Listed store) (frame : ContentFrame) : Listed (store.without key frame) where
  once := inOrder.once.filter _
  listed other := by
    rw [BoundedContentStore.without, List.mem_filter, inOrder.listed, OrdMap.getElem?_erase]
    by_cases same : key = other
    · simp [same]
    · simp [same, Ne.symm same]

theorem exact_without (exact : store.usedBytes.toNat = store.bytes) (found : store.entries[key]? = some frame) :
    (store.without key frame).usedBytes.toNat = (store.without key frame).bytes := by
  have split := bytes_without found
  rw [without, UInt64.toNat_saturatingSub, exact, split]
  exact Nat.add_sub_cancel_left _ _

theorem Sound.without (sound : Sound store) (found : store.entries[key]? = some frame) :
    Sound (store.without key frame) :=
  ⟨(sound.inOrder.without frame).once, (sound.inOrder.without frame).listed, exact_without sound.exact found⟩

/-- Removing a key: it is gone, the others stay, and the account stays exact. -/
structure Removes (keys : List StoreKey) (before after : BoundedContentStore) : Prop where
  maxBytes : after.maxBytes = before.maxBytes
  entries : ∀ key, after.entries[key]? = if key ∈ keys then none else before.entries[key]?
  sound : Sound before → Sound after
  shrinks : after.bytes ≤ before.bytes

theorem Removes.refl (store : BoundedContentStore) : Removes [] store store :=
  ⟨rfl, fun _ => rfl, id, Nat.le_refl _⟩

theorem Removes.trans {first second : List StoreKey} {before middle after : BoundedContentStore}
    (earlier : Removes first before middle) (later : Removes second middle after) :
    Removes (first ++ second) before after where
  maxBytes := later.maxBytes.trans earlier.maxBytes
  entries key := by
    rw [later.entries, earlier.entries]
    by_cases inFirst : key ∈ first <;> by_cases inSecond : key ∈ second <;> simp [inFirst, inSecond]
  sound := later.sound ∘ earlier.sound
  shrinks := Nat.le_trans later.shrinks earlier.shrinks

theorem removes_without (found : store.entries[key]? = some frame) : Removes [key] store (store.without key frame) where
  maxBytes := rfl
  entries other := by
    simp only [without, OrdMap.getElem?_erase, List.mem_singleton, eq_comm]
  sound sound := sound.without found
  shrinks := by rw [bytes_without found]; exact Nat.le_add_left _ _

theorem removeExisting_removes (store : BoundedContentStore) (key : StoreKey) :
    Removes [key] store (store.removeExisting key).2 := by
  cases found : store.entries[key]? with
  | none =>
    rw [removeExisting_absent found]
    refine ⟨rfl, fun other => ?_, id, Nat.le_refl _⟩
    split
    · rename_i same; rw [List.mem_singleton.mp same, found]
    · rfl
  | some frame =>
    rw [removeExisting_found found]
    exact removes_without found

end Remove

section Evict
variable {store : BoundedContentStore}

theorem evictOldest_front (inOrder : Listed store) {key : StoreKey} {rest : List StoreKey} (reason : Symbol)
    (oldest : store.order = key :: rest) :
    ∃ frame, store.entries[key]? = some frame ∧
      store.evictOldest reason = (some ⟨key, reason⟩, store.without key frame) := by
  obtain ⟨frame, found⟩ := (inOrder.listed key).mp (by rw [oldest]; exact List.mem_cons_self)
  refine ⟨frame, found, ?_⟩
  have removed : removeExisting key { store with order := rest } = (some frame, without key frame { store with order := rest }) :=
    removeExisting_found found
  rw [evictOldest, oldest, evictFirst, removed]
  simp only [without, oldest, List.filter_cons, ne_eq, not_true_eq_false, decide_false, Bool.false_eq_true, if_false]

theorem makeRoom_fits {sizeBytes : UInt64} (fits : ¬ store.maxBytes < store.usedBytes.saturatingAdd sizeBytes) :
    store.makeRoom sizeBytes = ([], store) := by
  rw [makeRoom, if_neg fits]

theorem makeRoom_evicts {sizeBytes : UInt64} {next : BoundedContentStore} {item : StoreEvicted}
    (tight : store.maxBytes < store.usedBytes.saturatingAdd sizeBytes)
    (evicted : store.evictOldest sizeBoundReason = (some item, next)) :
    store.makeRoom sizeBytes = (next.makeRoom sizeBytes).map (item :: ·) id := by
  rw [makeRoom, if_pos tight]
  split
  · rename_i again
    obtain ⟨same, rfl⟩ := Prod.mk.inj (again.symm.trans evicted)
    rw [Option.some.inj same]
  · rename_i again
    cases again.symm.trans evicted

/-- An empty store uses no bytes, so the guard of the loop fails at once. -/
theorem fits_vacant {sizeBytes : UInt64} (sound : Sound store) (small : ¬ store.maxBytes < sizeBytes)
    (vacant : store.order = []) : ¬ store.maxBytes < store.usedBytes.saturatingAdd sizeBytes := by
  have none_stored : store.entries = ∅ := by
    apply ExtTreeMap.ext_getElem?
    intro key
    cases found : store.entries[key]? with
    | none => simp
    | some frame =>
      have member := (sound.listed key).mpr ⟨frame, found⟩
      rw [vacant] at member
      cases member
  have unused : store.bytes = 0 := by rw [bytes, none_stored, OrdMap.total_empty]
  rw [UInt64.lt_iff_toNat_lt] at small ⊢
  rw [UInt64.toNat_saturatingAdd, sound.exact, unused]
  omega

/-- What the eviction loop does: it evicts the oldest keys until the guard fails. -/
structure MakesRoom (sizeBytes : UInt64) (before : BoundedContentStore) (evicted : List StoreEvicted)
    (after : BoundedContentStore) (gone : List StoreKey) : Prop where
  named : evicted = gone.map fun key => ⟨key, sizeBoundReason⟩
  oldest : before.order = gone ++ after.order
  removes : Removes gone before after
  fits : (after.usedBytes.saturatingAdd sizeBytes).toNat ≤ before.maxBytes.toNat

theorem makeRoom_spec {sizeBytes : UInt64} (sound : Sound store) (small : ¬ store.maxBytes < sizeBytes) :
    ∃ gone, MakesRoom sizeBytes store (store.makeRoom sizeBytes).1 (store.makeRoom sizeBytes).2 gone := by
  generalize listed : store.order = order
  induction order generalizing store with
  | nil =>
    have fits := fits_vacant sound small listed
    refine ⟨[], ?_⟩
    rw [makeRoom_fits fits]
    exact ⟨rfl, rfl, .refl store, Nat.not_lt.mp fits⟩
  | cons key rest ih =>
    by_cases fits : ¬ store.maxBytes < store.usedBytes.saturatingAdd sizeBytes
    · refine ⟨[], ?_⟩
      rw [makeRoom_fits fits]
      exact ⟨rfl, rfl, .refl store, Nat.not_lt.mp fits⟩
    · obtain ⟨frame, found, evicted⟩ := evictOldest_front sound.inOrder sizeBoundReason listed
      have shorter : (store.without key frame).order = rest := by
        have once := sound.once
        rw [listed, List.nodup_cons] at once
        rw [without, listed, List.filter_cons_of_neg (by simp), List.filter_eq_self]
        intro other member
        exact decide_eq_true fun same => once.1 (same ▸ member)
      obtain ⟨gone, room⟩ := ih (sound.without found) small shorter
      refine ⟨key :: gone, ?_⟩
      rw [makeRoom_evicts (not_not.mp fits) evicted]
      refine ⟨congrArg _ room.named, ?_, (removes_without found).trans room.removes, room.fits⟩
      rw [listed, ← shorter, room.oldest]
      rfl

end Evict

section Insert
variable {store : BoundedContentStore} {frame : ContentFrame}

def roomFor (frame : ContentFrame) (store : BoundedContentStore) : BoundedContentStore :=
  ((store.removeExisting frame.key).2.makeRoom frame.sizeBytes).2

/-- What an accepted insertion does: it removes keys and then adds one row. -/
structure Inserts (frame : ContentFrame) (before after : BoundedContentStore) (gone : List StoreKey) : Prop where
  removes : Removes (frame.key :: gone) before (before.roomFor frame)
  fits : ((before.roomFor frame).usedBytes.saturatingAdd frame.sizeBytes).toNat ≤ before.maxBytes.toNat
  maxBytes : after.maxBytes = before.maxBytes
  usedBytes : after.usedBytes = (before.roomFor frame).usedBytes.saturatingAdd frame.sizeBytes
  entries : after.entries = (before.roomFor frame).entries.insert frame.key frame
  order : after.order = (before.roomFor frame).order ++ [frame.key]

theorem insert_rejects (large : store.maxBytes < frame.sizeBytes) :
    store.insert frame = (.error (.eval s!"content frame {frame.sizeBytes} bytes exceeds store bound {store.maxBytes}"),
      store) := if_pos large

theorem insert_fresh (absent : store.entries[frame.key]? = none) (small : ¬ store.maxBytes < frame.sizeBytes)
    (fits : ¬ store.maxBytes < store.usedBytes.saturatingAdd frame.sizeBytes) :
    store.insert frame = (.ok [], store.withFrame frame) := by
  rw [insert, if_neg small, removeExisting_absent absent]
  simp only [makeRoom_fits fits, Option.isSome_none, Bool.false_eq_true, if_false, List.append_nil, withFrame]

theorem insert_spec (sound : Sound store) (small : ¬ store.maxBytes < frame.sizeBytes) :
    ∃ gone, Inserts frame store (store.insert frame).2 gone := by
  have freed := removeExisting_removes store frame.key
  obtain ⟨gone, room⟩ := makeRoom_spec (freed.sound sound) (by rwa [freed.maxBytes])
  have kept : (store.roomFor frame).maxBytes = store.maxBytes := room.removes.maxBytes.trans freed.maxBytes
  obtain ⟨maxBytes, usedBytes, entries, order⟩ :
      (store.insert frame).2.maxBytes = (store.roomFor frame).maxBytes ∧
      (store.insert frame).2.usedBytes = (store.roomFor frame).usedBytes.saturatingAdd frame.sizeBytes ∧
      (store.insert frame).2.entries = (store.roomFor frame).entries.insert frame.key frame ∧
      (store.insert frame).2.order = (store.roomFor frame).order ++ [frame.key] := by
    rw [insert, if_neg small]
    exact ⟨rfl, rfl, rfl, rfl⟩
  have fits := room.fits
  rw [freed.maxBytes] at fits
  exact ⟨gone, freed.trans room.removes, fits, maxBytes.trans kept, usedBytes, entries, order⟩

theorem Inserts.absent {after gone} (inserts : Inserts frame store after gone) :
    (store.roomFor frame).entries[frame.key]? = none := by
  rw [inserts.removes.entries, if_pos List.mem_cons_self]

theorem Inserts.bytes {after gone} (inserts : Inserts frame store after gone) :
    after.bytes = frame.sizeBytes.toNat + (store.roomFor frame).bytes := by
  rw [BoundedContentStore.bytes, inserts.entries, OrdMap.total_insert _ _ inserts.absent]
  rfl

theorem Listed.insert {before after : BoundedContentStore} (inOrder : Listed before)
    (absent : before.entries[frame.key]? = none) (order : after.order = before.order ++ [frame.key])
    (entries : after.entries = before.entries.insert frame.key frame) : Listed after where
  once := by
    rw [order, List.nodup_append]
    refine ⟨inOrder.once, List.nodup_singleton _, ?_⟩
    rintro key listed other (_ | ⟨_, ⟨⟩⟩) rfl
    obtain ⟨stored, found⟩ := (inOrder.listed _).mp listed
    cases absent.symm.trans found
  listed key := by
    rw [order, entries, OrdMap.getElem?_insert, List.mem_append, List.mem_singleton, inOrder.listed]
    by_cases same : frame.key = key
    · simp [same]
    · simp [same, Ne.symm same]

theorem Inserts.sound {after gone} (inserts : Inserts frame store after gone) (sound : Sound store)
    (exact : after.usedBytes.toNat = after.bytes) : Sound after := by
  have inOrder := (inserts.removes.sound sound).inOrder.insert inserts.absent inserts.order inserts.entries
  exact ⟨inOrder.once, inOrder.listed, exact⟩

def othersBytes (frame : ContentFrame) (store : BoundedContentStore) : Nat :=
  OrdMap.total (·.sizeBytes.toNat) (store.entries.erase frame.key)

private theorem bytes_removeExisting (store : BoundedContentStore) (frame : ContentFrame) :
    (store.removeExisting frame.key).2.bytes = store.othersBytes frame := by
  cases found : store.entries[frame.key]? with
  | none => rw [removeExisting_absent found, othersBytes, OrdMap.erase_absent _ found]; rfl
  | some old => rw [removeExisting_found found]; rfl

/-- At the greatest bound the saturated guard never fires, and nothing is evicted. -/
theorem roomFor_unbounded (frame : ContentFrame) (unbounded : store.maxBytes.toNat = UInt64.greatest) :
    (store.roomFor frame).bytes = store.othersBytes frame := by
  have freed := removeExisting_removes store frame.key
  rw [roomFor, makeRoom_fits, bytes_removeExisting]
  rw [UInt64.lt_iff_toNat_lt, freed.maxBytes, unbounded, Nat.not_lt]
  exact UInt64.toNat_le_greatest _

end Insert

section Sweep
variable {store : BoundedContentStore}

private theorem removeAll_removes (reason : Symbol) (store : BoundedContentStore) (keys : List StoreKey) :
    Removes keys store (store.removeAll reason keys).2 := by
  induction keys generalizing store with
  | nil => exact .refl store
  | cons key rest ih =>
    have first := removeExisting_removes store key
    rw [removeAll]
    generalize store.removeExisting key = removed at first
    obtain ⟨_ | frame, next⟩ := removed
    · exact first.trans (ih next)
    · exact first.trans (ih next)

private theorem removeAll_reports (reason : Symbol) {keys : List StoreKey} (once : keys.Nodup)
    (stored : ∀ key ∈ keys, ∃ frame, store.entries[key]? = some frame) :
    (store.removeAll reason keys).1 = keys.map fun key => ⟨key, reason⟩ := by
  induction keys generalizing store with
  | nil => rfl
  | cons key rest ih =>
    obtain ⟨unlisted, once⟩ := List.nodup_cons.mp once
    obtain ⟨frame, found⟩ := stored key List.mem_cons_self
    rw [removeAll, removeExisting_found found]
    refine congrArg (_ :: ·) (ih once fun other member => ?_)
    obtain ⟨kept, still⟩ := stored other (List.mem_cons_of_mem _ member)
    refine ⟨kept, ?_⟩
    rw [(removes_without found).entries, if_neg, still]
    exact fun same => unlisted (List.mem_singleton.mp same ▸ member)

variable (nowTick : UInt64) (adaptHz : UInt16) (windows : List RetentionWindow)

def expiredKeys (store : BoundedContentStore) : List StoreKey :=
  ((store.entries.toList.map Prod.snd).filter (expired nowTick adaptHz windows)).map ContentFrame.key

private theorem expiredKeys_eq (store : BoundedContentStore) : store.expiredKeys nowTick adaptHz windows =
    (store.entries.toList.filter fun row => expired nowTick adaptHz windows row.2).map Prod.fst := by
  rw [expiredKeys, List.filter_map, List.map_map]
  apply List.map_congr_left
  intro row member
  exact store.keyed row.1 row.2 (ExtTreeMap.mem_toList_iff_getElem?_eq_some.mp (List.mem_filter.mp member).1)

theorem mem_expiredKeys {key : StoreKey} : key ∈ store.expiredKeys nowTick adaptHz windows ↔
    ∃ frame, store.entries[key]? = some frame ∧ expired nowTick adaptHz windows frame = true := by
  simp only [expiredKeys_eq, List.mem_map, List.mem_filter, Prod.exists, exists_and_right, exists_eq_right,
    ExtTreeMap.mem_toList_iff_getElem?_eq_some]

theorem expiredKeys_nodup (store : BoundedContentStore) : (store.expiredKeys nowTick adaptHz windows).Nodup := by
  rw [expiredKeys_eq]
  have distinct : (store.entries.toList.map Prod.fst).Nodup := by
    rw [ExtTreeMap.map_fst_toList_eq_keys]
    exact ExtTreeMap.nodup_keys
  exact distinct.sublist (List.filter_sublist.map _)

theorem sweep_removes (store : BoundedContentStore) :
    Removes (store.expiredKeys nowTick adaptHz windows) store (store.sweepRetention nowTick adaptHz windows).2 :=
  removeAll_removes _ _ _

theorem sweep_reports (store : BoundedContentStore) : (store.sweepRetention nowTick adaptHz windows).1 =
    (store.expiredKeys nowTick adaptHz windows).map fun key => ⟨key, retentionReason⟩ := by
  refine removeAll_reports retentionReason (expiredKeys_nodup nowTick adaptHz windows store) fun key member => ?_
  obtain ⟨frame, found, _⟩ := (mem_expiredKeys nowTick adaptHz windows).mp member
  exact ⟨frame, found⟩

end Sweep

end StreamHost.BoundedContentStore
