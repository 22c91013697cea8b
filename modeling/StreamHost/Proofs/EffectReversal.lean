import StreamHost.MusicEffects

/-! What a built effect registry holds, and when the effects its descriptors promise to
be reversed by are among them. Descriptors are checked one at a time, so nothing
relates a reversal to the other entries. -/

namespace StreamHost.Proofs.EffectReversal
open Std EffectRegistry

/-- One descriptor more, under an id that was free. -/
structure Inserted (before : EffectRegistry) (descriptor : EffectDescriptor) (after : EffectRegistry) : Prop where
  valid : descriptor.validate = .ok ()
  free : before.get descriptor.id = none
  get : ∀ id, after.get id = if descriptor.id = id then some descriptor else before.get id

private theorem insert_ok {before after : EffectRegistry} {descriptor : EffectDescriptor}
    (accepted : before.insert descriptor = .ok after) : Inserted before descriptor after := by
  unfold EffectRegistry.insert at accepted
  split at accepted
  · cases accepted
  · rename_i valid
    split at accepted
    · cases accepted
    · rename_i fresh
      cases accepted
      constructor
      · exact valid
      · rw [ExtTreeMap.contains_eq_isSome_getElem?, Bool.not_eq_true, Option.isSome_eq_false_iff,
          Option.isNone_iff_eq_none] at fresh
        exact fresh
      · intro id
        apply OrdMap.getElem?_insert

/-- The new descriptor is found under its own id, and everything found before still is. -/
theorem Inserted.get_iff {before after : EffectRegistry} {descriptor : EffectDescriptor}
    (inserted : Inserted before descriptor after) (id : Symbol) (found : EffectDescriptor) :
    after.get id = some found ↔ (found = descriptor ∧ found.id = id) ∨ before.get id = some found := by
  rw [inserted.get]
  by_cases here : descriptor.id = id
  · rw [if_pos here]
    constructor
    · intro same
      obtain rfl := Option.some.inj same
      exact .inl ⟨rfl, here⟩
    · rintro (⟨rfl, _⟩ | held)
      · rfl
      · rw [← here, inserted.free] at held
        cases held
  · rw [if_neg here]
    apply (or_iff_right _).symm
    rintro ⟨rfl, same⟩
    exact here same

/-- What a run of insertions adds: the listed descriptors, each under its own id. -/
structure Filled (before : EffectRegistry) (descriptors : List EffectDescriptor) (after : EffectRegistry) : Prop where
  nodup : (descriptors.map EffectDescriptor.id).Nodup
  free : ∀ descriptor ∈ descriptors, before.get descriptor.id = none
  valid : ∀ descriptor ∈ descriptors, descriptor.validate = .ok ()
  get_iff : ∀ id found, after.get id = some found ↔ (found ∈ descriptors ∧ found.id = id) ∨ before.get id = some found

private theorem foldlM_insert {descriptors : List EffectDescriptor} {before after : EffectRegistry}
    (accepted : descriptors.foldlM EffectRegistry.insert before = .ok after) : Filled before descriptors after := by
  induction descriptors generalizing before with
  | nil =>
    cases accepted
    exact ⟨.nil, List.forall_mem_nil _, List.forall_mem_nil _, by simp⟩
  | cons descriptor rest ih =>
    rw [List.foldlM_cons] at accepted
    obtain ⟨next, inserted, later⟩ := Except.bind_eq_ok.mp accepted
    have step := insert_ok inserted
    have filled := ih later
    have apart : ∀ other ∈ rest, descriptor.id ≠ other.id := by
      intro other member same
      have free := filled.free other member
      rw [step.get, if_pos same] at free
      cases free
    constructor
    · rw [List.map_cons, List.nodup_cons]
      refine ⟨?_, filled.nodup⟩
      intro repeated
      obtain ⟨other, member, same⟩ := List.mem_map.mp repeated
      exact apart other member same.symm
    · rw [List.forall_mem_cons]
      refine ⟨step.free, ?_⟩
      intro other member
      have free := filled.free other member
      rwa [step.get, if_neg (apart other member)] at free
    · exact List.forall_mem_cons.mpr ⟨step.valid, filled.valid⟩
    · intro id found
      rw [filled.get_iff, step.get_iff, List.mem_cons, or_and_right, or_left_comm, or_assoc]

private theorem get_new {descriptors : List EffectDescriptor} {registry : EffectRegistry}
    (accepted : EffectRegistry.new descriptors = .ok registry) (id : Symbol) (found : EffectDescriptor) :
    registry.get id = some found ↔ found ∈ descriptors ∧ found.id = id := by
  have empty : EffectRegistry.empty.get id = none := ExtTreeMap.getElem?_empty
  rw [(foldlM_insert accepted).get_iff, empty]
  apply or_iff_left
  exact fun impossible => by cases impossible

/-- The registry holds the listed descriptors and no other, all of them checked. -/
structure Holds (descriptors : List EffectDescriptor) (registry : EffectRegistry) : Prop where
  nodup : (descriptors.map EffectDescriptor.id).Nodup
  listed : ∀ descriptor ∈ descriptors, registry.get descriptor.id = some descriptor
  others : ∀ id, id ∉ descriptors.map EffectDescriptor.id → registry.get id = none
  valid : ∀ id entry, registry.get id = some entry → entry.validate = .ok ()

theorem holds_new {descriptors : List EffectDescriptor} {registry : EffectRegistry}
    (accepted : EffectRegistry.new descriptors = .ok registry) : Holds descriptors registry := by
  constructor
  · exact (foldlM_insert accepted).nodup
  · intro descriptor member
    exact (get_new accepted _ _).mpr ⟨member, rfl⟩
  · intro id absent
    cases held : registry.get id with
    | none => rfl
    | some found =>
      obtain ⟨member, same⟩ := (get_new accepted id found).mp held
      rw [← same] at absent
      exact absurd (List.mem_map_of_mem member) absent
  · exact registry.validated

/-- Every promised reversal is another effect that can be looked up. -/
def Reversible (registry : EffectRegistry) : Prop :=
  ∀ id entry, registry.get id = some entry → ∀ target, entry.reversal = .effect target →
    target ≠ entry.id ∧ (registry.get target).isSome = true

/-- Every promised reversal names a listed descriptor. -/
def NamesListed (descriptors : List EffectDescriptor) : Prop :=
  ∀ descriptor ∈ descriptors, ∀ target, descriptor.reversal = .effect target →
    target ∈ descriptors.map EffectDescriptor.id

private theorem target_ne {descriptor : EffectDescriptor} (valid : descriptor.validate = .ok ()) {target : Symbol}
    (reversal : descriptor.reversal = .effect target) : target ≠ descriptor.id := by
  simp only [EffectDescriptor.validate, Except.bind_eq_ok, Except.rejectIf_eq_ok, exists_const] at valid
  intro same
  apply valid.2
  rw [reversal, same]

private theorem reversible_iff {descriptors : List EffectDescriptor} {registry : EffectRegistry}
    (accepted : EffectRegistry.new descriptors = .ok registry) : Reversible registry ↔ NamesListed descriptors := by
  have holds := holds_new accepted
  constructor
  · intro reversible descriptor member target reversal
    have found := (reversible _ descriptor (holds.listed descriptor member) target reversal).2
    by_contra absent
    rw [holds.others target absent] at found
    cases found
  · intro named id entry held target reversal
    obtain ⟨member, _⟩ := (get_new accepted id entry).mp held
    refine ⟨target_ne (holds.valid id entry held) reversal, ?_⟩
    obtain ⟨other, listed, same⟩ := List.mem_map.mp (named entry member target reversal)
    rw [← same, holds.listed other listed]
    rfl

/-- An accepted registry is closed under reversal exactly if the list it was built from is. -/
theorem registry_closed_iff {descriptors : List EffectDescriptor} {registry : EffectRegistry}
    (accepted : EffectRegistry.new descriptors = .ok registry) :
    Holds descriptors registry ∧ Reversible registry ↔ NamesListed descriptors := by
  rw [reversible_iff accepted]
  exact and_iff_right (holds_new accepted)

def musicDescriptors : List EffectDescriptor :=
  [.midiSend, .audioRouteOpen, .audioRouteClose, .emergencyStop].map MusicEffect.descriptor

theorem music_registry_closed : ∃ registry, musicEffectRegistry = .ok registry ∧
    Holds musicDescriptors registry ∧ Reversible registry := by
  obtain ⟨registry, accepted, _⟩ : ∃ registry, musicEffectRegistry = .ok registry ∧ registry.entries.size = 4 := by decide
  refine ⟨registry, accepted, (registry_closed_iff accepted).mpr ?_⟩
  intro descriptor member target reversal
  simp only [List.map_cons, List.map_nil, List.mem_cons, List.not_mem_nil, or_false] at member
  rcases member with rfl | rfl | rfl | rfl
  all_goals cases reversal
  decide

/-- A registry of the route opener alone is accepted, and its reversal is not registered. -/
theorem dangling_reversal_accepted : ∃ registry,
    EffectRegistry.new [MusicEffect.audioRouteOpen.descriptor] = .ok registry ∧
      registry.get MusicEffect.audioRouteClose.descriptor.id = none ∧ ¬ Reversible registry := by
  obtain ⟨registry, accepted, missing⟩ : ∃ registry,
      EffectRegistry.new [MusicEffect.audioRouteOpen.descriptor] = .ok registry ∧
        registry.get MusicEffect.audioRouteClose.descriptor.id = none := by decide
  refine ⟨registry, accepted, missing, ?_⟩
  rw [reversible_iff accepted]
  intro named
  have listed := named MusicEffect.audioRouteOpen.descriptor List.mem_cons_self _ rfl
  exact absurd listed (by decide)

end StreamHost.Proofs.EffectReversal
