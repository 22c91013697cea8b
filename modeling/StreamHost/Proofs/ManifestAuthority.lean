import StreamHost.Lib.FirstOffender
import StreamHost.Manifest
import StreamHost.Proofs.EffectLedger
import StreamHost.Proofs.EffectReversal

/-! What a provider manifest is refused for, and what an accepted one is good for. The
effects that accepted manifests declare are those a session can look up, no others. -/

namespace StreamHost.Proofs.ManifestAuthority
open ProviderManifest Except

section Complaints

/-- The word stands somewhere in the text, in small letters or capitals. -/
def Mentions (text word : String) : Prop := ∃ spelled, spelled <:+: text.toList ∧ word.toList = Text.lower spelled

private theorem contains_lower (word text : String) :
    Text.contains word.toList (Text.lower text.toList) = true ↔ Mentions text word := by
  have spelled : Mentions text word ↔ word.toList <:+: Text.lower text.toList := List.infix_map_iff.symm
  rw [spelled, List.infix_iff_prefix_suffix, Text.contains, List.any_eq_true]
  simp only [List.mem_tails, List.isPrefixOf_iff_prefix, and_comm]

instance (text word : String) : Decidable (Mentions text word) := decidable_of_iff _ (contains_lower word text)

def Secret (text : String) : Prop := ∃ word ∈ secretWords, Mentions text word

instance (text : String) : Decidable (Secret text) := inferInstanceAs (Decidable (∃ word ∈ secretWords, Mentions text word))

def referenceComplaints (value : String) : List DeviceError :=
  (if Secret value then [.contract "provider manifest contains secret material"] else []) ++
    if value = "" then [.contract "provider manifest has an empty content reference"] else []

def effectComplaints (descriptors : List EffectDescriptor) (effect : Symbol) : List DeviceError :=
  if effect ∈ descriptors.map EffectDescriptor.id then [] else [.contract s!"undeclared effect descriptor {effect}"]

/-- All that is wrong with a manifest, in the order in which it is looked for. -/
def complaints (descriptors : List EffectDescriptor) (manifest : ProviderManifest) : List DeviceError :=
  (if manifest.version ≠ 1 then [.contract s!"unsupported provider manifest version {manifest.version}"] else []) ++
    ((if manifest.staleAfter = 0 then [.contract "provider manifest has no stale bound"] else []) ++
      ([manifest.profile, manifest.cassette].flatMap referenceComplaints ++
        manifest.effects.flatMap (effectComplaints descriptors)))

private theorem checkReference_complains (value : String) : checkReference value = complain (referenceComplaints value) := by
  have secret : (secretWords.any fun word => Text.contains word.toList (Text.lower value.toList)) = true ↔ Secret value := by
    rw [List.any_eq_true]
    simp only [contains_lower]
    rfl
  have empty : value.isEmpty = true ↔ value = "" := String.isEmpty_iff
  rw [referenceComplaints, ← complain_append, ← rejectIf_complains, ← rejectIf_complains]
  simp only [checkReference, secret, empty]

variable {descriptors : List EffectDescriptor} {registry : EffectRegistry}

/-- Registered are the ids of the descriptors the registry was built from. -/
theorem isNone_get (accepted : EffectRegistry.new descriptors = .ok registry) (id : Symbol) :
    (registry.get id).isNone = true ↔ id ∉ descriptors.map EffectDescriptor.id := by
  have holds := EffectReversal.holds_new accepted
  constructor
  · intro missing listed
    obtain ⟨descriptor, member, rfl⟩ := List.mem_map.mp listed
    rw [holds.listed descriptor member] at missing
    cases missing
  · intro absent
    rw [holds.others id absent]
    rfl

private theorem checkEffect_complains (accepted : EffectRegistry.new descriptors = .ok registry) (effect : Symbol) :
    checkEffect registry effect = complain (effectComplaints descriptors effect) := by
  rw [checkEffect, rejectIf_complains, effectComplaints]
  simp only [isNone_get accepted, ite_not]

private theorem validate_complains (accepted : EffectRegistry.new descriptors = .ok registry) (manifest : ProviderManifest) :
    manifest.validate registry = complain (complaints descriptors manifest) := by
  rw [complaints, ← complain_append, ← complain_append, ← complain_append, ← rejectIf_complains, ← rejectIf_complains,
    ← forM_complains checkReference_complains, ← forM_complains (checkEffect_complains accepted)]
  rfl

/-- What has to hold of a manifest apart from its effects. -/
structure Clean (manifest : ProviderManifest) : Prop where
  version : manifest.version = 1
  stale : manifest.staleAfter ≠ 0
  profile : ¬ Secret manifest.profile ∧ manifest.profile ≠ ""
  cassette : ¬ Secret manifest.cassette ∧ manifest.cassette ≠ ""

private theorem referenceComplaints_nil {value : String} : referenceComplaints value = [] ↔ ¬ Secret value ∧ value ≠ "" := by
  rw [referenceComplaints, List.append_eq_nil_iff]
  apply and_congr
  · split <;> simp [*]
  · split <;> simp [*]

private theorem complaints_nil {manifest : ProviderManifest} :
    complaints descriptors manifest = [] ↔ Clean manifest ∧ ∀ effect ∈ manifest.effects,
      effect ∈ descriptors.map EffectDescriptor.id := by
  have none {condition : Prop} [Decidable condition] (error : DeviceError) :
      (if condition then [error] else []) = [] ↔ ¬ condition := by split <;> simp [*]
  have declared (effect : Symbol) : effectComplaints descriptors effect = [] ↔ effect ∈ descriptors.map EffectDescriptor.id := by
    rw [effectComplaints]
    split <;> simp [*]
  have references : [manifest.profile, manifest.cassette].flatMap referenceComplaints = [] ↔
      (¬ Secret manifest.profile ∧ manifest.profile ≠ "") ∧ ¬ Secret manifest.cassette ∧ manifest.cassette ≠ "" := by
    rw [List.flatMap_eq_nil_iff, List.forall_mem_cons, List.forall_mem_singleton, referenceComplaints_nil,
      referenceComplaints_nil]
  simp only [complaints, List.append_eq_nil_iff, none, not_not, references, List.flatMap_eq_nil_iff, declared]
  constructor
  · intro fine
    obtain ⟨version, stale, ⟨profile, cassette⟩, effects⟩ := fine
    exact ⟨⟨version, stale, profile, cassette⟩, effects⟩
  · intro both
    exact ⟨both.1.version, both.1.stale, ⟨both.1.profile, both.1.cassette⟩, both.2⟩

private theorem accepted_iff (accepted : EffectRegistry.new descriptors = .ok registry) {manifest : ProviderManifest} :
    manifest.validate registry = .ok () ↔ Clean manifest ∧ ∀ effect ∈ manifest.effects,
      effect ∈ descriptors.map EffectDescriptor.id := by
  rw [validate_complains accepted, ← complaints_nil]
  exact complain_eq_ok

/-- Nothing but the registry decides whether an effect can be declared. -/
theorem declarable_iff (accepted : EffectRegistry.new descriptors = .ok registry) (id : Symbol) :
    (∃ manifest : ProviderManifest, manifest.validate registry = .ok () ∧ id ∈ manifest.effects) ↔
      id ∈ descriptors.map EffectDescriptor.id := by
  constructor
  · intro declared
    obtain ⟨manifest, passed, member⟩ := declared
    exact ((accepted_iff accepted).mp passed).2 id member
  · intro listed
    have profile : referenceComplaints "profile" = [] := by decide
    have cassette : referenceComplaints "cassette" = [] := by decide
    refine ⟨⟨1, "profile", [id], 1, "cassette"⟩, (accepted_iff accepted).mpr ⟨?_, ?_⟩, List.mem_singleton_self id⟩
    · exact ⟨rfl, Nat.one_ne_zero, referenceComplaints_nil.mp profile, referenceComplaints_nil.mp cassette⟩
    · exact List.forall_mem_singleton.mpr listed

end Complaints

section Runs
open FakeEffectSession

def unregistered : DeviceError := .contract "effect is not registered"

private theorem missing_capability_apart (capability : CapabilityName) :
    s!"missing capability {capability}" ≠ "effect is not registered" := by
  intro same
  have letters := congrArg String.toList same
  rw [String.toList_append] at letters
  cases letters

/-- An effect that can be looked up is refused for other reasons only. -/
theorem authorize_registered {descriptor : EffectDescriptor} (valid : descriptor.validate = .ok ()) (debugLen : Expr → Nat)
    (request : EffectRequest) : (descriptor.authorize debugLen request).FailsWith (· ≠ unregistered) := by
  have apart {message : String} (other : message ≠ "effect is not registered") :
      DeviceError.contract message ≠ unregistered := by
    intro same
    exact other (DeviceError.contract.inj same)
  have checked : descriptor.validate.FailsWith (· ≠ unregistered) := by
    intro error failed
    cases valid.symm.trans failed
  exact .bind checked fun _ => .bind (.rejectIf (apart (by decide))) fun _ =>
    .bind (.rejectIf (apart (missing_capability_apart descriptor.capability))) fun _ =>
      .bind (.rejectIf (apart (by decide))) fun _ => .bind (.rejectIf (apart (by decide))) fun _ =>
        .bind (.rejectIf (apart (by decide))) fun _ => .rejectIf (apart (by decide))

variable {registry : EffectRegistry} {debugLen : Expr → Nat} {request : EffectRequest} {session : FakeEffectSession}

private theorem invoke_unregistered : (session.invoke debugLen request).1 = .error unregistered ↔
    session.stopped = false ∧ (session.registry.get request.descriptor).isNone = true := by
  unfold FakeEffectSession.invoke
  split
  · rename_i stopped
    apply iff_of_false
    · intro same
      cases same
    · simp [stopped]
  rename_i running
  rw [Bool.not_eq_true] at running
  split
  · rename_i missing
    exact iff_of_true rfl ⟨running, by simp [missing]⟩
  rename_i descriptor registered
  apply iff_of_false
  · have valid := session.registry.validated _ _ registered
    split
    · rename_i error denied
      intro same
      exact authorize_registered valid debugLen request error denied (Except.error.inj same)
    simp only [touch_replay]
    split
    · intro same
      exact absurd (DeviceError.contract.inj (Except.error.inj same)) (by decide)
    split
    · intro same
      cases same
    · intro same
      cases same
  · intro both
    rw [registered] at both
    cases both.2

/-- An invocation is refused as unregistered exactly if the session runs and no accepted
manifest declares the effect, and the refusal changes nothing. -/
structure LooksUpDeclared (registry : EffectRegistry) (event : SessionEvent FakeEffectSession) : Prop where
  refuses : ∀ request, event.input = .invoke request →
    (event.output = .receipt (.error unregistered) ↔ event.before.stopped = false ∧
      ∀ manifest : ProviderManifest, manifest.validate registry = .ok () → request.descriptor ∉ manifest.effects)
  keeps : event.output = .receipt (.error unregistered) → event.after = event.before

private theorem event_looksUp {descriptors : List EffectDescriptor} (accepted : EffectRegistry.new descriptors = .ok registry)
    (state : FakeEffectSession) (call : SessionCall) (coherent : Coherent registry state) :
    LooksUpDeclared registry ((machine debugLen).event state call) := by
  cases call with
  | start | poll | stop =>
    constructor
    · intro request asked
      cases asked
    · intro refused
      cases refused
  | invoke request =>
    have answered : ((machine debugLen).event state (.invoke request)).output = .receipt (.error unregistered) ↔
        state.stopped = false ∧ (registry.get request.descriptor).isNone = true := by
      rw [Machine.event_output, step_invoke, SessionAnswer.receipt.injEq, invoke_unregistered, coherent.reads]
    constructor
    · intro other asked
      obtain rfl := SessionCall.invoke.inj asked
      have undeclared : (registry.get request.descriptor).isNone = true ↔ ∀ manifest : ProviderManifest,
          manifest.validate registry = .ok () → request.descriptor ∉ manifest.effects := by
        rw [isNone_get accepted, ← declarable_iff accepted, not_exists]
        exact forall_congr' fun manifest => not_and
      rw [answered, undeclared]
      rfl
    · intro refused
      obtain ⟨running, missing⟩ := answered.mp refused
      change (state.invoke debugLen request).2 = state
      rw [FakeEffectSession.invoke, if_neg (Bool.eq_false_iff.mp running), coherent.reads, Option.isNone_iff_eq_none.mp missing]

/-- A manifest is refused for the first of all that is wrong with it, so accepted are those with
nothing wrong, and what these declare are the listed effects. In every run of a session under the
same registry, the effects that cannot be looked up are those no accepted manifest declares. -/
theorem manifests_name_callables {descriptors : List EffectDescriptor}
    (accepted : EffectRegistry.new descriptors = .ok registry) (debugLen : Expr → Nat) (profile : DeviceProfile)
    (calls : List SessionCall) :
    (∀ manifest : ProviderManifest, manifest.validate registry = complain (complaints descriptors manifest) ∧
      (manifest.validate registry = .ok () ↔
        Clean manifest ∧ ∀ effect ∈ manifest.effects, effect ∈ descriptors.map EffectDescriptor.id)) ∧
    ∀ event ∈ (machine debugLen).trace (.new profile registry) calls, LooksUpDeclared registry event := by
  constructor
  · intro manifest
    exact ⟨validate_complains accepted manifest, accepted_iff accepted⟩
  · exact Machine.trace_forall _ (Coherent registry) (LooksUpDeclared registry) (step_coherent debugLen)
      (event_looksUp accepted) (Coherent.new profile registry) calls

def musicManifest : ProviderManifest := ⟨1, "sha256:profile", [MusicEffect.midiSend.descriptor.id], 30, "sha256:ToKeN"⟩

def strayCalls : List SessionCall := [.start, .invoke ((standardEffectDescriptor "stray").armedRequest .nil "key" 1 2)]

/-- The music manifest is refused for its cassette, whatever the case of the word in it, and
under the music registry a stray effect cannot be looked up. -/
theorem cassette_token_refused : ∃ registry, EffectRegistry.new EffectReversal.musicDescriptors = .ok registry ∧
    musicManifest.validate registry = complain (complaints EffectReversal.musicDescriptors musicManifest) ∧
    complaints EffectReversal.musicDescriptors musicManifest = [.contract "provider manifest contains secret material"] ∧
    ∀ event ∈ (machine fun _ => 0).trace (.new noProfile registry) strayCalls, LooksUpDeclared registry event := by
  obtain ⟨registry, accepted, _⟩ : ∃ registry, EffectRegistry.new EffectReversal.musicDescriptors = .ok registry ∧
    registry.entries.size = 4 := by decide
  have named := manifests_name_callables accepted (fun _ => 0) noProfile strayCalls
  exact ⟨registry, accepted, (named.1 musicManifest).1, by decide, named.2⟩

end Runs

end StreamHost.Proofs.ManifestAuthority
