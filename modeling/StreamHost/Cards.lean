import StreamHost.Registry

/-! Browse cards: expressions that describe backends, devices and ports, and the
cards of a whole registry. -/

namespace StreamHost
variable {ω ν δ : Type}

def HostDirection.symbol : HostDirection → Symbol
  | input => .qualified "stream/host-direction" "input"
  | output => .qualified "stream/host-direction" "output"
  | duplex => .qualified "stream/host-direction" "duplex"

/-- How the stream core renders media and buffer policies. -/
structure CardTexts where
  media : StreamMedia → Symbol
  buffer : BufferPolicy → Expr

def missingCapabilityCardExpr (backend : Symbol) (capability : HostBackendCapability) : Expr :=
  .map [
    (.symbol (.new "subject"), .symbol backend),
    (.symbol (.new "kind"), .symbol (.qualified "stream" "host-missing-capability")),
    (.symbol (.new "capability"), .symbol capability.symbol)]

section
variable (texts : CardTexts)

def HostBackendInfo.cardExpr (info : HostBackendInfo) : Expr :=
  .map [
    (.symbol (.new "subject"), .symbol info.id),
    (.symbol (.new "kind"), .symbol (.qualified "stream" "host-backend")),
    (.symbol (.new "transport"), .symbol info.transport),
    (.symbol (.new "media"), .symbol (texts.media info.media)),
    (.symbol (.new "hardware-required"), .bool info.hardwareRequired),
    (.symbol (.new "callbacks-bounded"), .bool info.callbacksBounded),
    (.symbol (.new "capabilities"), .list (info.capabilities.map fun capability => .symbol capability.symbol))]

def HostDeviceSpec.cardExpr (device : HostDeviceSpec) : Expr :=
  .map [
    (.symbol (.new "subject"), .symbol device.id),
    (.symbol (.new "kind"), .symbol (.qualified "stream" "host-device")),
    (.symbol (.new "backend"), .symbol device.backend),
    (.symbol (.new "media"), .symbol (texts.media device.media)),
    (.symbol (.new "direction"), .symbol device.direction.symbol),
    (.symbol (.new "clock"), .symbol device.clock),
    (.symbol (.new "buffer"), texts.buffer device.buffer)]

def HostPortSpec.cardExpr (port : HostPortSpec) : Expr :=
  .map [
    (.symbol (.new "subject"), .symbol port.id),
    (.symbol (.new "kind"), .symbol (.qualified "stream" "host-port")),
    (.symbol (.new "device"), .symbol port.device),
    (.symbol (.new "backend"), .symbol port.backend),
    (.symbol (.new "media"), .symbol (texts.media port.media)),
    (.symbol (.new "direction"), .symbol port.direction.symbol)]

def HostDeviceInventory.cardExprs (inventory : HostDeviceInventory) : List Expr :=
  inventory.devices.map (·.cardExpr texts) ++ inventory.ports.map (·.cardExpr texts)

end

namespace HostBackendRegistry

def enumerateBackends : List (HostBackend ω ν δ) → ω → Result (List HostDeviceInventory) × ω
  | [], world => (.ok [], world)
  | backend :: rest, world =>
    match backend.enumerate world with
    | (.error error, world) => (.error error, world)
    | (.ok inventory, world) => (enumerateBackends rest world).map (Except.map (inventory :: ·)) id

def enumerate (registry : HostBackendRegistry ω ν δ) (world : ω) : Result (List HostDeviceInventory) × ω :=
  enumerateBackends registry.backends.values world

variable (texts : CardTexts)

/-- The cards so far are kept while the backends are visited; a failing enumeration drops them. -/
def backendCards : List (HostBackend ω ν δ) → List Expr → ω → Result (List Expr) × ω
  | [], cards, world => (.ok cards, world)
  | backend :: rest, cards, world =>
    let cards := cards ++ [backend.info.cardExpr texts]
    match backend.enumerate world with
    | (.error error, world) => (.error error, world)
    | (.ok inventory, world) => backendCards rest (cards ++ inventory.cardExprs texts) world

def cardExprs (registry : HostBackendRegistry ω ν δ) (world : ω) : Result (List Expr) × ω :=
  backendCards texts registry.backends.values [] world

end HostBackendRegistry

end StreamHost
