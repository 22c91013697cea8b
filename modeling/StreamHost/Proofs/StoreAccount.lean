import StreamHost.Proofs.ContentStore

/-! The store's byte account over whole runs: exact and within the bound as long
as no insertion overflows a machine word at the greatest bound. -/

namespace StreamHost.Proofs.StoreAccount
open Std BoundedContentStore

def SizeBounded (store : BoundedContentStore) : Prop :=
  store.usedBytes.toNat = store.bytes ∧ store.bytes ≤ store.maxBytes.toNat

/-- The frames beside the new one leave room for it in a machine word, unless
the bound is below the greatest word anyway. -/
def Fits (frame : ContentFrame) (store : BoundedContentStore) : Prop :=
  store.maxBytes.toNat < UInt64.greatest ∨ store.othersBytes frame + frame.sizeBytes.toNat ≤ UInt64.greatest

private theorem insert_bounded_iff {store : BoundedContentStore} (sound : Sound store)
    (bounded : store.bytes ≤ store.maxBytes.toNat) (frame : ContentFrame) :
    SizeBounded (store.insert frame).2 ↔ Fits frame store := by
  by_cases large : store.maxBytes < frame.sizeBytes
  · rw [insert_rejects large]
    refine iff_of_true ⟨sound.exact, bounded⟩ (.inl ?_)
    exact Nat.lt_of_lt_of_le large frame.sizeBytes.toNat_le_greatest
  obtain ⟨gone, inserts⟩ := insert_spec sound large
  have exact := (inserts.removes.sound sound).exact
  have fits := inserts.fits
  have below := store.maxBytes.toNat_le_greatest
  rw [UInt64.toNat_saturatingAdd] at fits
  rw [SizeBounded, Fits, inserts.maxBytes, inserts.usedBytes, inserts.bytes, UInt64.toNat_saturatingAdd, exact]
  rw [exact] at fits
  by_cases unbounded : store.maxBytes.toNat = UInt64.greatest
  · rw [roomFor_unbounded frame unbounded]
    omega
  · omega

def Roomy (event : Machine.Event BoundedContentStore StoreCall StoreAnswer) : Prop :=
  ∀ frame, event.input = .insert frame → Fits frame event.before

private theorem step_bounded_iff (store : BoundedContentStore) (call : StoreCall) (kept : Sound store ∧ SizeBounded store) :
    SizeBounded (machine.event store call).after ↔ Roomy (machine.event store call) := by
  obtain ⟨sound, exact, bounded⟩ := kept
  cases call with
  | insert frame =>
    refine (insert_bounded_iff sound bounded frame).trans ⟨?_, fun roomy => roomy frame rfl⟩
    rintro fits other ⟨⟩
    exact fits
  | sweepRetention nowTick adaptHz windows =>
    have removes := sweep_removes nowTick adaptHz windows store
    refine iff_of_true ⟨(removes.sound sound).exact, ?_⟩ nofun
    exact (removes.shrinks.trans bounded).trans_eq (congrArg UInt64.toNat removes.maxBytes.symm)

private theorem step_sound (store : BoundedContentStore) (call : StoreCall) (kept : Sound store ∧ SizeBounded store)
    (bounded : SizeBounded (machine.event store call).after) : Sound (machine.step store call).2 := by
  cases call with
  | insert frame =>
    by_cases large : store.maxBytes < frame.sizeBytes
    · have rejected : (machine.step store (.insert frame)).2 = store := congrArg Prod.snd (insert_rejects large)
      rw [rejected]
      exact kept.1
    · obtain ⟨gone, inserts⟩ := insert_spec kept.1 large
      exact inserts.sound kept.1 bounded.1
  | sweepRetention nowTick adaptHz windows => exact (sweep_removes nowTick adaptHz windows store).sound kept.1

/-- In every run from a new store, every state reached is exact and bounded
exactly when every insertion fits. -/
theorem size_bounded_iff {maxBytes : UInt64} {store : BoundedContentStore} (created : new maxBytes = .ok store)
    (calls : List StoreCall) :
    (∀ event ∈ machine.trace store calls, SizeBounded event.after) ↔
      ∀ event ∈ machine.trace store calls, Roomy event := by
  obtain ⟨sound, vacant, _⟩ := new_sound created
  refine machine.trace_forall_iff (fun store => Sound store ∧ SizeBounded store) (SizeBounded ·.after) Roomy
    step_bounded_iff (fun store call kept bounded => ⟨step_sound store call kept bounded, bounded⟩) ?_ calls
  exact ⟨sound, sound.exact, by rw [vacant]; exact Nat.zero_le _⟩

theorem size_bounded_iff_evicting :
    (∀ event ∈ machine.trace (emptyStore 10) [.insert (sizedFrame "first" 6), .insert (sizedFrame "second" 7)],
        SizeBounded event.after) ↔
      ∀ event ∈ machine.trace (emptyStore 10) [.insert (sizedFrame "first" 6), .insert (sizedFrame "second" 7)],
        Roomy event :=
  size_bounded_iff (new_emptyStore (by decide)) _

/-- At the greatest bound two frames of together more than a word's bytes are
stored, and the account saturates below their sum. -/
theorem greatest_bound_overflows :
    ¬ ∀ (maxBytes : UInt64) (store : BoundedContentStore) (calls : List StoreCall),
      new maxBytes = .ok store → SizeBounded (machine.final store calls) := by
  intro always
  let store := emptyStore 0xFFFFFFFFFFFFFFFF
  let first := sizedFrame "first" 0xFFFFFFFFFFFFFFFE
  let second := sizedFrame "second" 2
  have stored : (store.insert first).2 = store.withFrame first :=
    congrArg Prod.snd (insert_fresh (by decide) (by decide) (by decide))
  have reached : machine.final store [.insert first, .insert second] = (store.withFrame first).withFrame second := by
    refine Eq.trans (congrArg (fun store => (insert second store).2) stored) ?_
    exact congrArg Prod.snd (insert_fresh (by decide) (by decide) (by decide))
  have bounded := always 0xFFFFFFFFFFFFFFFF store [.insert first, .insert second] (new_emptyStore (by decide))
  have sum : ((store.withFrame first).withFrame second).bytes = 2 ^ 64 := by decide
  rw [reached] at bounded
  exact absurd (sum ▸ bounded.2) (by decide)

end StreamHost.Proofs.StoreAccount
