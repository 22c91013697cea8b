import StreamHost.Config

/-! Host devices, open plans, and the authority and effects under which a plan is
enforced before a stream is opened. -/

namespace StreamHost

def streamHostCapability : CapabilityName := .new "stream.host"

def streamHostDeviceReadEffectKind : Symbol := .qualified "effect" "device-read"

def streamHostDeviceWriteEffectKind : Symbol := .qualified "effect" "device-write"

def HostDirection.effectKinds : HostDirection → List Symbol
  | input => [streamHostDeviceReadEffectKind]
  | output => [streamHostDeviceWriteEffectKind]
  | duplex => [streamHostDeviceReadEffectKind, streamHostDeviceWriteEffectKind]

structure Effect where
  handle : UInt64
  kind : Symbol
  device : Symbol
  backend : Symbol
  result : Symbol
  requirements : List CapabilityName
deriving DecidableEq, Repr

/-- The kernel context as far as an open uses it: requiring a capability, and
resolving effects, with the answer of the effect's handler. -/
structure HostContext (κ : Type) where
  require : CapabilityName → κ → Result Unit
  freshHandle : κ → UInt64 × κ
  resolveEffect : Effect → Symbol → κ → Result Symbol × κ

structure HostOpenPlan where
  backend : Symbol
  device : Symbol
  effectKinds : List Symbol
  requires : List CapabilityName
deriving DecidableEq, Repr

namespace HostOpenPlan
variable {κ : Type} (context : HostContext κ)

def effect (plan : HostOpenPlan) (handle : UInt64) (kind : Symbol) : Effect where
  handle := handle
  kind := kind
  device := plan.device
  backend := plan.backend
  result := .qualified "stream/host" "open-result"
  requirements := plan.requires

def requireAll : List CapabilityName → κ → Result Unit
  | [], _ => .ok ()
  | capability :: rest, cx =>
    match context.require capability cx with
    | .error error => .error error
    | .ok () => requireAll rest cx

def resolveAll (plan : HostOpenPlan) : List Symbol → κ → Result Unit × κ
  | [], cx => (.ok (), cx)
  | kind :: rest, cx =>
    let (handle, cx) := context.freshHandle cx
    match context.resolveEffect (plan.effect handle kind) (.qualified "stream/host" "open-authorized") cx with
    | (.error error, cx) => (.error error, cx)
    | (.ok _, cx) => resolveAll plan rest cx

def enforce (plan : HostOpenPlan) (cx : κ) : Result Unit × κ :=
  match requireAll context plan.requires cx with
  | .error error => (.error error, cx)
  | .ok () => plan.resolveAll context plan.effectKinds cx

end HostOpenPlan

inductive HostBackendCapability where
  | audioInput
  | audioOutput
  | midiInput
  | midiOutput
  | duplex
  | hotplug
  | reconnect
  | offline
  | fake
deriving DecidableEq, Repr

def HostBackendCapability.symbol : HostBackendCapability → Symbol
  | audioInput => .qualified "stream/host-capability" "audio-input"
  | audioOutput => .qualified "stream/host-capability" "audio-output"
  | midiInput => .qualified "stream/host-capability" "midi-input"
  | midiOutput => .qualified "stream/host-capability" "midi-output"
  | duplex => .qualified "stream/host-capability" "duplex"
  | hotplug => .qualified "stream/host-capability" "hotplug"
  | reconnect => .qualified "stream/host-capability" "reconnect"
  | offline => .qualified "stream/host-capability" "offline"
  | fake => .qualified "stream/host-capability" "fake"

structure HostBackendInfo where
  id : Symbol
  transport : Symbol
  media : StreamMedia
  hardwareRequired : Bool
  callbacksBounded : Bool
  capabilities : List HostBackendCapability
deriving DecidableEq, Repr

namespace HostBackendInfo

/-- Callbacks are bounded, and no capabilities are advertised. -/
def new (id transport : Symbol) (media : StreamMedia) (hardwareRequired : Bool) : HostBackendInfo :=
  ⟨id, transport, media, hardwareRequired, true, []⟩

def withCapabilities (capabilities : List HostBackendCapability) (info : HostBackendInfo) : HostBackendInfo :=
  { info with capabilities }

end HostBackendInfo

structure HostDeviceSpec where
  id : Symbol
  backend : Symbol
  media : StreamMedia
  direction : HostDirection
  clock : Symbol
  buffer : BufferPolicy
deriving DecidableEq, Repr

namespace HostDeviceSpec

def metadata (spec : HostDeviceSpec) : StreamMetadata where
  id := spec.id
  media := spec.media
  direction := spec.direction.streamDirection
  clock := spec.clock
  buffer := spec.buffer

def openPlan (spec : HostDeviceSpec) : HostOpenPlan where
  backend := spec.backend
  device := spec.id
  effectKinds := spec.direction.effectKinds
  requires := [streamHostCapability]

end HostDeviceSpec

end StreamHost
