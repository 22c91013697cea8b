import StreamHost.Proofs.ContentStore

/-! Which frames a retention sweep keeps, compared with exact arithmetic on their
age. Rounding down and saturation keep some frames past their window. -/

namespace StreamHost.Proofs.RetentionSweep
open Std BoundedContentStore

def rate (adaptHz : UInt16) : Nat := (max adaptHz 1).toNat

/-- A thousand times the age in ticks: the age in milliseconds times the rate. -/
def scaledAge (nowTick : UInt64) (frame : ContentFrame) : Nat := (nowTick.toNat - frame.insertedTick.toNat) * 1000

def Within (nowTick : UInt64) (adaptHz : UInt16) (frame : ContentFrame) (window : RetentionWindow) : Prop :=
  scaledAge nowTick frame ≤ window.retainMs.toNat * rate adaptHz

/-- The exact age exceeds the window, by less than a millisecond or past what
the saturated age can show. -/
def Lingers (nowTick : UInt64) (adaptHz : UInt16) (frame : ContentFrame) (window : RetentionWindow) : Prop :=
  window.retainMs.toNat * rate adaptHz < scaledAge nowTick frame ∧
    (scaledAge nowTick frame < (window.retainMs.toNat + 1) * rate adaptHz ∨
      UInt64.greatest < (window.retainMs.toNat + 1) * rate adaptHz)

private theorem rate_pos (adaptHz : UInt16) : 0 < rate adaptHz := by
  change 0 < (if adaptHz ≤ 1 then 1 else adaptHz).toNat
  split
  · decide
  · rename_i above
    rw [UInt16.le_iff_toNat_le] at above
    exact Nat.lt_trans Nat.zero_lt_one (Nat.not_le.mp above)

private theorem toNat_elapsedMs (nowTick : UInt64) (adaptHz : UInt16) (frame : ContentFrame) :
    (elapsedMs nowTick frame.insertedTick adaptHz).toNat =
      min (scaledAge nowTick frame) UInt64.greatest / rate adaptHz := by
  simp [elapsedMs, scaledAge, rate]

theorem expired_iff (nowTick : UInt64) (adaptHz : UInt16) (frame : ContentFrame) (window : RetentionWindow) :
    window.retainMs < elapsedMs nowTick frame.insertedTick adaptHz ↔
      (window.retainMs.toNat + 1) * rate adaptHz ≤ scaledAge nowTick frame ∧
        (window.retainMs.toNat + 1) * rate adaptHz ≤ UInt64.greatest := by
  rw [UInt64.lt_iff_toNat_lt, toNat_elapsedMs, ← Nat.succ_le_iff, Nat.le_div_iff_mul_le (rate_pos adaptHz),
    Nat.le_min]

private theorem unexpired_iff (nowTick : UInt64) (adaptHz : UInt16) (frame : ContentFrame) (window : RetentionWindow) :
    ¬ window.retainMs < elapsedMs nowTick frame.insertedTick adaptHz ↔
      Within nowTick adaptHz frame window ∨ Lingers nowTick adaptHz frame window := by
  have positive := rate_pos adaptHz
  rw [expired_iff, Within, Lingers, Nat.add_mul, Nat.one_mul]
  omega

def InsideWindow (nowTick : UInt64) (adaptHz : UInt16) (windows : List RetentionWindow) (frame : ContentFrame) : Prop :=
  ∃ window, firstWindow windows frame = some window ∧ Within nowTick adaptHz frame window

/-- The sweep keeps the frames inside their windows and names each removed key once. -/
structure SweepsExactly (nowTick : UInt64) (adaptHz : UInt16) (windows : List RetentionWindow)
    (store : BoundedContentStore) : Prop where
  kept : ∀ (key : StoreKey) (frame : ContentFrame),
    (store.sweepRetention nowTick adaptHz windows).2.entries[key]? = some frame ↔
      store.entries[key]? = some frame ∧ InsideWindow nowTick adaptHz windows frame
  named : ∀ key, key ∈ (store.sweepRetention nowTick adaptHz windows).1.map StoreEvicted.key ↔
    key ∈ store.entries ∧ key ∉ (store.sweepRetention nowTick adaptHz windows).2.entries
  once : ((store.sweepRetention nowTick adaptHz windows).1.map StoreEvicted.key).Nodup

variable (nowTick : UInt64) (adaptHz : UInt16) (windows : List RetentionWindow) (store : BoundedContentStore)

private theorem survives_iff (key : StoreKey) (frame : ContentFrame) :
    (store.sweepRetention nowTick adaptHz windows).2.entries[key]? = some frame ↔
      store.entries[key]? = some frame ∧ ∃ window, firstWindow windows frame = some window ∧
        (Within nowTick adaptHz frame window ∨ Lingers nowTick adaptHz frame window) := by
  have alive : expired nowTick adaptHz windows frame = false ↔ ∃ window, firstWindow windows frame = some window ∧
      (Within nowTick adaptHz frame window ∨ Lingers nowTick adaptHz frame window) := by
    simp only [expired, ← unexpired_iff]
    cases firstWindow windows frame <;> simp
  rw [(sweep_removes nowTick adaptHz windows store).entries, ← alive]
  constructor
  · intro found
    split at found
    · cases found
    · rename_i unlisted
      refine ⟨found, Bool.eq_false_iff.mpr fun gone => unlisted ?_⟩
      exact (mem_expiredKeys nowTick adaptHz windows).mpr ⟨frame, found, gone⟩
  · rintro ⟨found, lives⟩
    rw [if_neg, found]
    intro listed
    obtain ⟨other, again, gone⟩ := (mem_expiredKeys nowTick adaptHz windows).mp listed
    obtain rfl := Option.some.inj (found.symm.trans again)
    cases lives.symm.trans gone

private theorem reported_keys : (store.sweepRetention nowTick adaptHz windows).1.map StoreEvicted.key =
    store.expiredKeys nowTick adaptHz windows := by
  rw [sweep_reports, List.map_map]
  exact List.map_id' _

/-- A sweep is exact unless some stored frame lingers past its window. -/
theorem sweep_exact_iff : SweepsExactly nowTick adaptHz windows store ↔
    ∀ (key : StoreKey) (frame : ContentFrame) (window : RetentionWindow), store.entries[key]? = some frame →
      firstWindow windows frame = some window → ¬ Lingers nowTick adaptHz frame window := by
  constructor
  · intro exact key frame window stored matched lingers
    have survives := (survives_iff nowTick adaptHz windows store key frame).mpr ⟨stored, window, matched, .inr lingers⟩
    obtain ⟨_, other, again, within⟩ := (exact.kept key frame).mp survives
    obtain rfl := Option.some.inj (matched.symm.trans again)
    exact Nat.not_lt.mpr within lingers.1
  · intro punctual
    refine ⟨fun key frame => ?_, fun key => ?_, ?_⟩
    · rw [survives_iff]
      refine and_congr_right fun stored => exists_congr fun window => and_congr_right fun matched => ?_
      exact or_iff_left (punctual key frame window stored matched)
    · rw [reported_keys, ExtTreeMap.mem_iff_isSome_getElem?, ExtTreeMap.mem_iff_isSome_getElem?,
        (sweep_removes nowTick adaptHz windows store).entries]
      by_cases listed : key ∈ store.expiredKeys nowTick adaptHz windows
      · obtain ⟨frame, found, _⟩ := (mem_expiredKeys nowTick adaptHz windows).mp listed
        simp [listed, found]
      · simp [listed]
    · rw [reported_keys]
      exact expiredKeys_nodup nowTick adaptHz windows store

/-- At three ticks a second a frame a third of a millisecond past its window stays. -/
theorem frame_past_window_survives :
    ¬ ∀ (maxBytes : UInt64) (store : BoundedContentStore) (calls : List StoreCall), new maxBytes = .ok store →
      ∀ (nowTick : UInt64) (adaptHz : UInt16) (windows : List RetentionWindow),
        SweepsExactly nowTick adaptHz windows (machine.final store calls) := by
  intro always
  let frame := sizedFrame "frame" 1
  let window : RetentionWindow := ⟨.new "session", 1, 333⟩
  have inserted : ((emptyStore 10).insert frame).2 = (emptyStore 10).withFrame frame :=
    congrArg Prod.snd (insert_fresh (by decide) (by decide) (by decide))
  have exact : SweepsExactly 1 3 [window] ((emptyStore 10).insert frame).2 :=
    always 10 (emptyStore 10) [.insert frame] (new_emptyStore (by decide)) 1 3 [window]
  rw [inserted] at exact
  have stored : ((emptyStore 10).withFrame frame).entries[frame.key]? = some frame :=
    ExtTreeMap.getElem?_insert_self
  have matched : firstWindow [window] frame = some window := by decide
  have lingers : Lingers 1 3 frame window := ⟨by decide, by decide⟩
  have survives := (survives_iff 1 3 [window] _ _ frame).mpr ⟨stored, window, matched, .inr lingers⟩
  obtain ⟨_, other, again, within⟩ := (exact.kept _ frame).mp survives
  obtain rfl := Option.some.inj (matched.symm.trans again)
  exact Nat.not_lt.mpr within lingers.1

end StreamHost.Proofs.RetentionSweep
