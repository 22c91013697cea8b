import StreamHost.Kernel
import StreamHost.Lib.Machine
import StreamHost.Lib.OrdMap
import StreamHost.Lib.Result

/-! Device sessions and the authority under which they execute effects: effect
descriptors, the checked registry of them, and the fake effect session. -/

namespace StreamHost
open Std

inductive DeviceError where
  | unsupported
  | sample (message : String)
  | host (message : String)
  | contract (message : String)
deriving DecidableEq, Repr

abbrev DeviceResult := Except DeviceError

structure DeviceProfile where
  device : Symbol
  streams : List Symbol
  inputs : List Symbol
  outputs : List Symbol
  sampleKinds : List Symbol
deriving DecidableEq, Repr

def noProfile : DeviceProfile := ⟨.new "device", [], [], [], []⟩

inductive IdempotencePolicy where
  | idempotent
  | keyed
  | atMostOnce
deriving DecidableEq, Repr

inductive ReversalPolicy where
  | irreversible
  | effect (id : Symbol)
deriving DecidableEq, Repr

structure EffectBounds where
  maxRequestBytes : UInt64
  maxInvocations : UInt64
deriving DecidableEq, Repr

/-- A span of time in nanoseconds. -/
abbrev Duration := Nat

def Duration.fromMillis (millis : Nat) : Duration := millis * 1000000

def Duration.fromSecs (secs : Nat) : Duration := secs * 1000000000

structure EffectDescriptor where
  id : Symbol
  shape : Symbol
  capability : CapabilityName
  bounds : EffectBounds
  requiresArm : Bool
  expiresAfter : Duration
  receipt : Symbol
  idempotence : IdempotencePolicy
  reversal : ReversalPolicy
  localStop : Symbol
deriving DecidableEq, Repr

structure EffectRequest where
  descriptor : Symbol
  payload : Expr
  arm : Option String
  idempotenceKey : Option String
  grants : List CapabilityName
  armedAtMs : UInt64
  invokedAtMs : UInt64

structure EffectReceipt where
  kind : Symbol
  descriptor : Symbol
  sequence : UInt64
deriving DecidableEq, Repr

/-- The text is absent or empty, as `as_deref().is_none_or(str::is_empty)`. -/
def blank (text : Option String) : Bool := text.all (· == "")

namespace EffectDescriptor

def validate (descriptor : EffectDescriptor) : DeviceResult Unit := do
  .rejectIf (descriptor.shape.name = "" ∨ descriptor.capability.asStr = "" ∨
      descriptor.bounds.maxRequestBytes = 0 ∨ descriptor.bounds.maxInvocations = 0 ∨
      descriptor.expiresAfter = 0 ∨ descriptor.receipt.name = "" ∨ descriptor.localStop.name = "")
    (.contract s!"effect {descriptor.id} has an incomplete authority descriptor")
  .rejectIf (descriptor.reversal = .effect descriptor.id) (.contract s!"effect {descriptor.id} reverses itself")

/-- `debugLen` is the length of the debug rendering of a kernel expression. -/
def authorize (debugLen : Expr → Nat) (descriptor : EffectDescriptor) (request : EffectRequest) :
    DeviceResult Unit := do
  descriptor.validate
  .rejectIf (request.descriptor ≠ descriptor.id) (.contract "forged effect descriptor")
  .rejectIf (descriptor.capability ∉ request.grants) (.contract s!"missing capability {descriptor.capability}")
  .rejectIf (descriptor.requiresArm ∧ blank request.arm) (.contract "effect request is not armed")
  .rejectIf (request.invokedAtMs < request.armedAtMs ∨
      descriptor.expiresAfter < Duration.fromMillis (request.invokedAtMs - request.armedAtMs).toNat)
    (.contract "effect request arm has expired")
  .rejectIf (descriptor.idempotence = .keyed ∧ blank request.idempotenceKey)
    (.contract "effect request has no idempotence key")
  .rejectIf (descriptor.bounds.maxRequestBytes.toNat < debugLen request.payload)
    (.contract "effect request exceeds its size bound")

def armedRequest (descriptor : EffectDescriptor) (payload : Expr) (key : String) (armedAtMs invokedAtMs : UInt64) :
    EffectRequest where
  descriptor := descriptor.id
  payload := payload
  arm := some "operator-arm"
  idempotenceKey := some key
  grants := [descriptor.capability]
  armedAtMs := armedAtMs
  invokedAtMs := invokedAtMs

structure Authorized (debugLen : Expr → Nat) (descriptor : EffectDescriptor) (request : EffectRequest) : Prop where
  valid : descriptor.validate = .ok ()
  named : request.descriptor = descriptor.id
  granted : descriptor.capability ∈ request.grants
  armed : descriptor.requiresArm = true → blank request.arm = false
  timely : request.armedAtMs ≤ request.invokedAtMs
  fresh : Duration.fromMillis (request.invokedAtMs - request.armedAtMs).toNat ≤ descriptor.expiresAfter
  keyed : descriptor.idempotence = .keyed → blank request.idempotenceKey = false
  sized : debugLen request.payload ≤ descriptor.bounds.maxRequestBytes.toNat

theorem authorize_ok {debugLen : Expr → Nat} {descriptor : EffectDescriptor} {request : EffectRequest}
    (passed : descriptor.authorize debugLen request = .ok ()) : Authorized debugLen descriptor request := by
  simp only [authorize, Except.bind_eq_ok, Except.rejectIf_eq_ok, exists_const] at passed
  obtain ⟨_, valid, named, granted, armed, timed, keyed, sized⟩ := passed
  rw [not_or, UInt64.not_lt, Nat.not_lt] at timed
  exact ⟨valid, not_not.mp named, not_not.mp granted, fun needed => by simpa [needed] using armed,
    timed.1, timed.2, fun policy => by simpa [policy] using keyed, Nat.not_lt.mp sized⟩

theorem authorize_fails (debugLen : Expr → Nat) (descriptor : EffectDescriptor) (request : EffectRequest) :
    (descriptor.authorize debugLen request).FailsWith fun error => ∃ message, error = .contract message :=
  .bind (.bind (.rejectIf ⟨_, rfl⟩) fun _ => .rejectIf ⟨_, rfl⟩) fun _ =>
    .bind (.rejectIf ⟨_, rfl⟩) fun _ => .bind (.rejectIf ⟨_, rfl⟩) fun _ => .bind (.rejectIf ⟨_, rfl⟩) fun _ =>
      .bind (.rejectIf ⟨_, rfl⟩) fun _ => .bind (.rejectIf ⟨_, rfl⟩) fun _ => .rejectIf ⟨_, rfl⟩

end EffectDescriptor

def standardEffectDescriptor (id : String) : EffectDescriptor where
  id := .qualified "device/effect" id
  shape := .qualified "shape/device-effect" id
  capability := .new s!"device.effect.{id}"
  bounds := { maxRequestBytes := 64 * 1024, maxInvocations := 0xFFFFFFFFFFFFFFFF }
  requiresArm := true
  expiresAfter := .fromSecs 30
  receipt := .qualified "device/receipt" id
  idempotence := .keyed
  reversal := .irreversible
  localStop := .qualified "device/effect" "stop"

/-- Only checked descriptors are registered, each under its own id. -/
structure EffectRegistry where
  entries : ExtTreeMap Symbol EffectDescriptor
  keyed : ∀ (id : Symbol) (descriptor : EffectDescriptor), entries[id]? = some descriptor → descriptor.id = id
  validated : ∀ (id : Symbol) (descriptor : EffectDescriptor), entries[id]? = some descriptor →
    descriptor.validate = .ok ()

namespace EffectRegistry

def empty : EffectRegistry := ⟨∅, by simp, by simp⟩

def insert (registry : EffectRegistry) (descriptor : EffectDescriptor) : DeviceResult EffectRegistry :=
  match valid : descriptor.validate with
  | .error error => .error error
  | .ok () =>
    if registry.entries.contains descriptor.id then
      .error (.contract s!"duplicate effect descriptor {descriptor.id}")
    else
      .ok {
        entries := registry.entries.insert descriptor.id descriptor
        keyed := by
          intro id found
          rw [OrdMap.getElem?_insert]
          split
          · rintro ⟨rfl⟩; assumption
          · exact registry.keyed id found
        validated := by
          intro id found
          rw [OrdMap.getElem?_insert]
          split
          · rintro ⟨rfl⟩; exact valid
          · exact registry.validated id found }

def new (descriptors : List EffectDescriptor) : DeviceResult EffectRegistry :=
  descriptors.foldlM insert empty

def get (registry : EffectRegistry) (id : Symbol) : Option EffectDescriptor := registry.entries[id]?

end EffectRegistry

end StreamHost
