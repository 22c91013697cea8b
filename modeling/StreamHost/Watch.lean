import StreamHost.Lib.Result
import StreamHost.SimValue

/-! Provider-side consent gates for worn-event expressions. -/

namespace StreamHost

inductive WatchCapability where
  | health
  | location
  | mic
  | vendorReport
deriving DecidableEq, Repr

namespace WatchCapability

def all : List WatchCapability := [health, location, mic, vendorReport]

def asStr : WatchCapability → String
  | health => "watch/health"
  | location => "watch/location"
  | mic => "watch/mic"
  | vendorReport => "watch/vendor-report"

def localName : WatchCapability → String
  | health => "health"
  | location => "location"
  | mic => "mic"
  | vendorReport => "vendor-report"

def capabilityName (capability : WatchCapability) : CapabilityName := .new capability.asStr

def grantSymbol (capability : WatchCapability) : Symbol := .qualified "watch" capability.localName

def fromName (name : String) : Option WatchCapability := all.find? (·.asStr = name)

theorem fromName_asStr (capability : WatchCapability) : fromName capability.asStr = some capability := by
  cases capability <;> rfl

theorem grantSymbol_asQualifiedStr (capability : WatchCapability) :
    capability.grantSymbol.asQualifiedStr = capability.asStr := by
  cases capability <;> rfl

/-- What a sensor of the sensor namespace needs. -/
def forSensor : String → WatchCapability
  | "gps" | "route" => location
  | "mic-audio" => mic
  | _ => health

end WatchCapability

section Classify
variable (access : Access)

def requiredSymbolField (expr : Expr) (name : String) : Result Symbol :=
  match access.field expr name with
  | some (.symbol symbol) => .ok symbol
  | some _ => .error (.typeMismatch "symbol field" "non-symbol")
  | none => .error (.eval s!"missing field {name}")

def ensureWornEventSample (event : Expr) : Result Unit := do
  let sample ← requiredSymbolField access event "sample"
  .rejectIf (sample ≠ .qualified "stream/device-sample" "worn-event") (.hostError "expected stream/device-sample worn-event")

def watchCapabilityForWornEvent (event : Expr) : Result WatchCapability := do
  ensureWornEventSample access event
  let sensor ← requiredSymbolField access event "sensor"
  .rejectIf (sensor.ns ≠ some "stream/worn-sensor")
    (.hostError s!"watch worn sensor must be in stream/worn-sensor, found {sensor}")
  return .forSensor sensor.name

end Classify

section Consent
variable {Cx : Type} (require : CapabilityName → Cx → Result Unit)

def requireWatchConsent (cx : Cx) (capability : WatchCapability) (grants : List Symbol)
    (receiptSession session : Symbol) : Result Unit := do
  require capability.capabilityName cx
  .rejectIf (receiptSession ≠ session) (.hostError s!"{capability.asStr}: consent not for this session")
  .rejectIf (¬ grants.any (·.asQualifiedStr = capability.asStr))
    (.hostError s!"{capability.asStr} requires visible consent")

def requireWatchWornIngest (access : Access) (cx : Cx) (event : Expr) (grants : List Symbol)
    (receiptSession session : Symbol) : Result WatchCapability := do
  let capability ← watchCapabilityForWornEvent access event
  requireWatchConsent require cx capability grants receiptSession session
  return capability

end Consent

end StreamHost
