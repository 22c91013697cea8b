import StreamHost.Backend
import StreamHost.Lib.OrdMap
import StreamHost.Model

/-! Host backends over the outside world, and the registry that opens streams
through them under the authority of the opened device. -/

namespace StreamHost
open Std

variable {κ ν δ ω : Type}

structure HostPortSpec where
  id : Symbol
  device : Symbol
  backend : Symbol
  media : StreamMedia
  direction : HostDirection
deriving DecidableEq, Repr

structure HostDeviceInventory where
  backend : Symbol
  devices : List HostDeviceSpec
  ports : List HostPortSpec
deriving DecidableEq, Repr

/-- The trait of host backends. The devices that an enumeration finds may change with the world. -/
structure HostBackend (ω ν δ : Type) where
  info : HostBackendInfo
  enumerate : ω → Result HostDeviceInventory × ω
  openStream : HostStreamConfigRequest → ω → Result (HostOpenStream ν δ) × ω

/-- The same backend, with a record of the requests it was asked to open. -/
def HostBackend.logged (backend : HostBackend ω ν δ) : HostBackend (ω × List HostStreamConfigRequest) ν δ where
  info := backend.info
  enumerate world := (backend.enumerate world.1).map id (·, world.2)
  openStream request world := (backend.openStream request world.1).map id (·, world.2 ++ [request])

/-- Every backend is registered under its own id. -/
structure HostBackendRegistry (ω ν δ : Type) where
  backends : ExtTreeMap Symbol (HostBackend ω ν δ)
  keyed : ∀ (id : Symbol) (backend : HostBackend ω ν δ), backends[id]? = some backend → backend.info.id = id

namespace HostBackendRegistry

def new : HostBackendRegistry ω ν δ := ⟨∅, by simp⟩

def register (backend : HostBackend ω ν δ) (registry : HostBackendRegistry ω ν δ) :
    Result Unit × HostBackendRegistry ω ν δ :=
  if registry.backends.contains backend.info.id then
    (.error (.eval s!"stream host backend {backend.info.id} is already registered"), registry)
  else (.ok (), {
    backends := registry.backends.insert backend.info.id backend
    keyed := by
      intro id found
      rw [OrdMap.getElem?_insert]
      split
      · rintro ⟨rfl⟩; assumption
      · exact registry.keyed id found })

def logged (registry : HostBackendRegistry ω ν δ) : HostBackendRegistry (ω × List HostStreamConfigRequest) ν δ where
  backends := registry.backends.map fun _ backend => backend.logged
  keyed := by
    intro id found
    rw [ExtTreeMap.getElem?_map, Option.map_eq_some_iff]
    rintro ⟨backend, known, rfl⟩
    exact registry.keyed id backend known

def backendOrError (registry : HostBackendRegistry ω ν δ) (backend : Symbol) : Result (HostBackend ω ν δ) :=
  match registry.backends[backend]? with
  | some found => .ok found
  | none => .error (.eval s!"stream host backend {backend} is not registered")

/-- The plan for the first device of the requested id. -/
def planDevice (inventory : HostDeviceInventory) (request : HostStreamConfigRequest) : Result HostOpenPlan :=
  match inventory.devices.find? (·.id = request.device) with
  | none => .error (.eval s!"stream host backend {request.backend} has no device {request.device}")
  | some device => do
    .rejectIf (device.media ≠ request.media)
      (.typeMismatch "request media matching host device" "request media for another host device")
    .rejectIf (device.direction ≠ request.direction)
      (.typeMismatch "request direction matching host device" "request direction for another host device")
    return device.openPlan

def planOpen (registry : HostBackendRegistry ω ν δ) (request : HostStreamConfigRequest) (world : ω) :
    Result HostOpenPlan × ω :=
  match registry.backendOrError request.backend with
  | .error error => (.error error, world)
  | .ok backend => (backend.enumerate world).map (· >>= (planDevice · request)) id

def openStream (registry : HostBackendRegistry ω ν δ) (request : HostStreamConfigRequest) (world : ω) :
    Result (HostOpenStream ν δ) × ω :=
  match registry.planOpen request world with
  | (.error error, world) => (.error error, world)
  | (.ok _, world) =>
    match registry.backendOrError request.backend with
    | .error error => (.error error, world)
    | .ok backend => backend.openStream request world

/-- The device is looked up for the plan, again by the registry's own open, and a third time by the backend. -/
def openChecked (context : HostContext κ) (registry : HostBackendRegistry ω ν δ) (cx : κ)
    (request : HostStreamConfigRequest) (world : ω) : Result (HostOpenStream ν δ) × κ × ω :=
  match registry.planOpen request world with
  | (.error error, world) => (.error error, cx, world)
  | (.ok plan, world) =>
    match plan.enforce context cx with
    | (.error error, cx) => (.error error, cx, world)
    | (.ok (), cx) => (registry.openStream request world).map id (cx, ·)

end HostBackendRegistry

end StreamHost
