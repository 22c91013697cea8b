import StreamHost.Fake
import StreamHost.Proofs.PlanEnforcement
import StreamHost.RtpMidi

/-! Checked opens through the backend registry stay within their authority. The
device is looked up three times; what the plan records is what is opened. -/

namespace StreamHost.Proofs.CheckedOpens
open Std HostBackendRegistry

variable {κ ν μ δ ω : Type}

/-- The inventory carries the backend's own id, and what is opened is what was requested. -/
structure Honest (backend : HostBackend ω ν δ) : Prop where
  own : ∀ {world inventory}, (backend.enumerate world).1 = .ok inventory →
    ∀ device ∈ inventory.devices, device.backend = backend.info.id
  opens : ∀ {request world opened}, (backend.openStream request world).1 = .ok opened →
    opened.config.device = request.device ∧ opened.config.media = request.media ∧
      opened.config.direction = request.direction

inductive Admitted : HostBackend ω ν δ → Prop where
  | fake {packet : Type} (clocks : ClockSymbols) (buffer : BufferPolicy) (stream : PushStream ν packet) :
      Admitted ((FakeBackend.new clocks buffer).backend clocks stream)
  | rtpMidi {packet : Type} (externals : RtpMidiExternals ν packet) : Admitted (RtpMidiBackend.backend externals)
  | honest (backend : HostBackend ω ν δ) (honest : Honest backend) : Admitted backend

private theorem fake_honest (clocks : ClockSymbols) (buffer : BufferPolicy) (stream : PushStream ν μ) :
    Honest ((FakeBackend.new clocks buffer).backend clocks stream : HostBackend ω ν δ) where
  own := by
    rintro world inventory ⟨⟩ device member
    simp only [FakeBackend.new, List.mem_cons, List.not_mem_nil, or_false] at member
    rcases member with rfl | rfl | rfl | rfl <;> rfl
  opens := by
    intro request world opened accepted
    simp only [FakeBackend.backend, FakeBackend.openStream, Except.bind_eq_ok] at accepted
    obtain ⟨_, _, accepted⟩ := accepted
    split at accepted
    · cases accepted
    · simp only [Except.bind_eq_ok] at accepted
      obtain ⟨_, _, _, _, accepted⟩ := accepted
      cases accepted
      exact ⟨rfl, rfl, rfl⟩

private theorem rtpMidi_honest (externals : RtpMidiExternals ν μ) :
    Honest (RtpMidiBackend.backend externals : HostBackend ω ν δ) where
  own := by
    intro world inventory enumerated device member
    simp only [RtpMidiBackend.backend, RtpMidiBackend.enumerate, RtpMidiBackend.sourceSpec, Except.bind_eq_ok] at enumerated
    obtain ⟨source, ⟨buffer, _, built⟩, enumerated⟩ := enumerated
    cases enumerated
    cases built
    obtain rfl := List.mem_singleton.mp member
    rfl
  opens := by
    intro request world opened accepted
    simp only [RtpMidiBackend.backend, RtpMidiBackend.openStream, HostOpenStream.newLanMidiControl,
      Except.bind_eq_ok] at accepted
    obtain ⟨_, _, _, _, _, _, _, _, _, _, accepted⟩ := accepted
    cases accepted
    exact ⟨rfl, rfl, rfl⟩

private theorem Admitted.honestly {backend : HostBackend ω ν δ} (admitted : Admitted backend) : Honest backend := by
  cases admitted with
  | fake clocks buffer stream => exact fake_honest clocks buffer stream
  | rtpMidi externals => exact rtpMidi_honest externals
  | honest _ honest => exact honest

/-- The backend of a request and its first device of the requested id. -/
structure Finds (registry : HostBackendRegistry ω ν δ) (request : HostStreamConfigRequest) (world : ω)
    (backend : HostBackend ω ν δ) (device : HostDeviceSpec) : Prop where
  known : registry.backends[request.backend]? = some backend
  first : ∃ inventory, (backend.enumerate world).1 = .ok inventory ∧
    inventory.devices.find? (·.id = request.device) = some device

/-- The request asks for the media and direction of the device it names. -/
def Matches (registry : HostBackendRegistry ω ν δ) (request : HostStreamConfigRequest) (world : ω) : Prop :=
  ∃ backend device, Finds registry request world backend device ∧ device.media = request.media ∧
    device.direction = request.direction

private theorem planDevice_ok_iff {inventory : HostDeviceInventory} {request : HostStreamConfigRequest} {plan : HostOpenPlan} :
    planDevice inventory request = .ok plan ↔ ∃ device, inventory.devices.find? (·.id = request.device) = some device ∧
      device.media = request.media ∧ device.direction = request.direction ∧ device.openPlan = plan := by
  unfold planDevice
  cases inventory.devices.find? (·.id = request.device) with
  | none =>
    constructor
    · intro planned
      cases planned
    · rintro ⟨device, found, _⟩
      cases found
  | some device =>
    simp only [Except.bind_eq_ok, Except.rejectIf_eq_ok, not_not, exists_const, Option.some.injEq, exists_eq_left',
      pure, Except.pure, Except.ok.injEq]

private theorem planOpen_ok_iff {registry : HostBackendRegistry ω ν δ} {request : HostStreamConfigRequest} {world : ω}
    {plan : HostOpenPlan} : (registry.planOpen request world).1 = .ok plan ↔
      ∃ backend device, Finds registry request world backend device ∧ device.media = request.media ∧
        device.direction = request.direction ∧ device.openPlan = plan := by
  unfold planOpen backendOrError
  cases known : registry.backends[request.backend]? with
  | none =>
    refine iff_of_false nofun ?_
    rintro ⟨backend, device, finds, _⟩
    cases known.symm.trans finds.known
  | some backend =>
    simp only [Prod.map_fst, Except.bind_eq_ok, planDevice_ok_iff]
    constructor
    · rintro ⟨inventory, enumerated, device, first, same⟩
      exact ⟨backend, device, ⟨known, inventory, enumerated, first⟩, same⟩
    · rintro ⟨found, device, ⟨again, inventory, enumerated, first⟩, same⟩
      obtain rfl : backend = found := Option.some.inj (known.symm.trans again)
      exact ⟨inventory, enumerated, device, first, same⟩

private theorem planOpen_logged (registry : HostBackendRegistry ω ν δ) (request : HostStreamConfigRequest) (world : ω)
    (log : List HostStreamConfigRequest) :
    registry.logged.planOpen request (world, log) = (registry.planOpen request world).map id (·, log) := by
  simp only [planOpen, backendOrError, logged, ExtTreeMap.getElem?_map]
  cases registry.backends[request.backend]? with
  | none => rfl
  | some backend => rfl

private theorem openStream_ok {registry : HostBackendRegistry ω ν δ} {request : HostStreamConfigRequest} {world : ω}
    {opened : HostOpenStream ν δ} (accepted : (registry.openStream request world).1 = .ok opened) :
    ∃ backend last, registry.backends[request.backend]? = some backend ∧ (backend.openStream request last).1 = .ok opened := by
  unfold HostBackendRegistry.openStream at accepted
  split at accepted
  · cases accepted
  · rename_i last _
    rw [backendOrError] at accepted
    cases known : registry.backends[request.backend]? with
    | none => rw [known] at accepted; cases accepted
    | some backend => rw [known] at accepted; exact ⟨backend, last, rfl, accepted⟩

section Checked
variable {context : HostContext κ} {held : κ → CapabilityName → Prop} {ledger : κ → List Effect}
  {registry : HostBackendRegistry ω ν δ} {cx : κ} {request : HostStreamConfigRequest} {world : ω}

theorem Finds.device {backend : HostBackend ω ν δ} {device : HostDeviceSpec}
    (finds : Finds registry request world backend device) : device.id = request.device := by
  obtain ⟨inventory, _, first⟩ := finds.first
  simpa using List.find?_some first

theorem Finds.backend {backend : HostBackend ω ν δ} {device : HostDeviceSpec}
    (finds : Finds registry request world backend device) (honest : Honest backend) : device.backend = request.backend := by
  obtain ⟨inventory, enumerated, first⟩ := finds.first
  rw [honest.own enumerated device (List.mem_of_find?_eq_some first)]
  exact registry.keyed _ _ finds.known

/-- What a returned stream says: authority was held, its effects and no others are
recorded, and it is a stream of the device that was planned. -/
structure WithinAuthority (held : κ → CapabilityName → Prop) (ledger : κ → List Effect)
    (registry : HostBackendRegistry ω ν δ) (request : HostStreamConfigRequest) (cx : κ) (world : ω)
    (opened : HostOpenStream ν δ) (after : κ) : Prop where
  authority : held cx streamHostCapability
  recorded : ∃ effects : List Effect, ledger after = ledger cx ++ effects ∧
    effects.map Effect.kind = opened.config.direction.effectKinds ∧
    ∀ effect ∈ effects, effect.device = request.device ∧ effect.backend = request.backend
  device : ∃ backend device, Finds registry request world backend device ∧ opened.config.media = device.media ∧
    opened.config.direction = device.direction

theorem openChecked_ok (laws : context.Ledgers held ledger)
    (honest : ∀ (id : Symbol) (backend : HostBackend ω ν δ), registry.backends[id]? = some backend → Honest backend) {opened : HostOpenStream ν δ}
    (accepted : (registry.openChecked context cx request world).1 = .ok opened) :
    WithinAuthority held ledger registry request cx world opened (registry.openChecked context cx request world).2.1 := by
  unfold openChecked at accepted ⊢
  rcases planned : registry.planOpen request world with ⟨error | plan, later⟩
  · rw [planned] at accepted
    cases accepted
  rcases enforced : plan.enforce context cx with ⟨error | _, after⟩
  · simp only [planned, enforced] at accepted
    cases accepted
  simp only [planned, enforced] at accepted ⊢
  obtain ⟨backend, device, finds, media, direction, rfl⟩ := planOpen_ok_iff.mp (congrArg Prod.fst planned)
  obtain ⟨authority, recorded⟩ := HostOpenPlan.enforce_ok laws (congrArg Prod.fst enforced)
  have reached : (registry.openStream request later).1 = .ok opened := accepted
  obtain ⟨opener, last, known, opens⟩ := openStream_ok reached
  obtain ⟨_, sameMedia, sameDirection⟩ := (honest _ _ known).opens opens
  obtain ⟨effects, grown, kinds, ofPlan⟩ := recorded
  rw [enforced] at grown
  refine ⟨authority _ List.mem_cons_self, ⟨effects, grown, ?_, fun effect member => ?_⟩, backend, device, finds, ?_, ?_⟩
  · rw [kinds, sameDirection, ← direction]
    rfl
  · rw [ofPlan effect member]
    exact ⟨finds.device, finds.backend (honest _ _ finds.known)⟩
  · rw [sameMedia, media]
  · rw [sameDirection, direction]

/-- Without authority or a matching device nothing is opened or recorded. -/
theorem openChecked_refused (laws : context.Ledgers held ledger)
    (unfit : ¬ held cx streamHostCapability ∨ ¬ Matches registry request world) :
    ∃ error last, registry.logged.openChecked context cx request (world, []) = (.error error, cx, last, []) := by
  rw [openChecked, planOpen_logged]
  rcases planned : registry.planOpen request world with ⟨error | plan, later⟩
  · exact ⟨error, later, rfl⟩
  · obtain ⟨backend, device, finds, media, direction, rfl⟩ := planOpen_ok_iff.mp (congrArg Prod.fst planned)
    have missing : ¬ held cx streamHostCapability :=
      unfit.resolve_right fun none => none ⟨backend, device, finds, media, direction⟩
    have refused : ∃ error, device.openPlan.enforce context cx = (.error error, cx) :=
      HostOpenPlan.enforce_denied laws List.mem_cons_self missing
    obtain ⟨error, denied⟩ := refused
    refine ⟨error, later, ?_⟩
    simp only [Prod.map, id_eq, denied]

/-- Every checked open through a registry of honest backends stays within its authority. -/
theorem checked_opens_within_authority (laws : context.Ledgers held ledger)
    (admitted : ∀ (id : Symbol) (backend : HostBackend ω ν δ), registry.backends[id]? = some backend → Admitted backend) (cx : κ)
    (request : HostStreamConfigRequest) (world : ω) :
    (∀ opened, (registry.openChecked context cx request world).1 = .ok opened →
      WithinAuthority held ledger registry request cx world opened (registry.openChecked context cx request world).2.1) ∧
    (¬ held cx streamHostCapability ∨ ¬ Matches registry request world →
      ∃ error last, registry.logged.openChecked context cx request (world, []) = (.error error, cx, last, [])) :=
  ⟨fun _ => openChecked_ok laws fun id backend known => (admitted id backend known).honestly, openChecked_refused laws⟩

end Checked

def plainClocks : ClockSymbols := ⟨fun _ => .new "clock", fun _ => .ok .midiTick⟩

/-- The registry of the fake backend alone. -/
def fakeRegistry : HostBackendRegistry Unit (BoundedItems Nat) Unit :=
  (new.register ((FakeBackend.new plainClocks ⟨4⟩).backend plainClocks (boundedStream Nat))).2

private theorem fakeRegistry_admitted (id : Symbol) (backend : HostBackend Unit (BoundedItems Nat) Unit)
    (known : fakeRegistry.backends[id]? = some backend) : Admitted backend := by
  have held : fakeRegistry.backends[id]? = _ := OrdMap.getElem?_insert ..
  rw [held] at known
  split at known
  · cases known
    exact .fake ..
  · cases known

def pcmRequest : HostStreamConfigRequest :=
  ⟨fakeBackendSymbol, .new "fake/pcm", .pcm, .output, ⟨4⟩, .new "clock", .disabled⟩

theorem fake_opens_within_authority :
    (∃ opened, (fakeRegistry.openChecked plainContext ([streamHostCapability], []) pcmRequest ()).1 = .ok opened ∧
      WithinAuthority (fun cx capability => capability ∈ cx.1) Prod.snd fakeRegistry pcmRequest
        ([streamHostCapability], []) () opened
        (fakeRegistry.openChecked plainContext ([streamHostCapability], []) pcmRequest ()).2.1) ∧
    ∃ error last, fakeRegistry.logged.openChecked plainContext ([], []) pcmRequest ((), []) =
      (.error error, ([], []), last, []) :=
  ⟨⟨_, rfl, (checked_opens_within_authority plainContext_ledgers fakeRegistry_admitted ([streamHostCapability], [])
    pcmRequest ()).1 _ rfl⟩,
  (checked_opens_within_authority plainContext_ledgers fakeRegistry_admitted ([], []) pcmRequest ()).2 (.inl (by simp))⟩

end StreamHost.Proofs.CheckedOpens
