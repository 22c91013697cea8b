import StreamHost.CommandFields

/-! Worn-event sample encoding. -/

namespace StreamHost.Wristbridge

def wornEventSampleKind : String := "worn-event"

/-- One normalized sample of a watch route; its sensor lies in the sensor namespace. -/
structure WornEvent where
  seq : UInt64
  sensor : Symbol
  value : Expr
  worn : sensor.ns = some "stream/worn-sensor"

def requiredU64 (access : Access) (expr : Expr) (field context : String) : DeviceResult UInt64 :=
  access.requiredU64 .sample expr field context

def mapDeviceError {α : Type} (access : Access) (result : Result α) : DeviceResult α := access.mapError .sample result

namespace WornEvent

def new (seq : UInt64) (sensor : Symbol) (value : Expr) : DeviceResult WornEvent :=
  if worn : sensor.ns = some "stream/worn-sensor" then .ok { seq, sensor, value, worn }
  else .error (.sample s!"worn sensor must be in stream/worn-sensor, found {sensor}")

def fromSensorName (seq : UInt64) (sensor : String) (value : Expr) : DeviceResult WornEvent :=
  new seq (.qualified "stream/worn-sensor" sensor) value

def toExpr (build : Build) (event : WornEvent) : Expr :=
  build.map [
    ("kind", build.qsym "stream/device-sample" "record"),
    ("sample", build.qsym "stream/device-sample" wornEventSampleKind),
    ("seq", build.uint event.seq),
    ("sensor", .symbol event.sensor),
    ("value", event.value)]

def ensureSample (access : Access) (expr : Expr) : DeviceResult Unit := do
  let sample ← mapDeviceError access (access.requiredSym expr "sample" "worn event")
  .rejectIf (sample ≠ .qualified "stream/device-sample" wornEventSampleKind)
    (.sample "expected stream/device-sample worn-event")

def fromExpr (access : Access) (expr : Expr) : DeviceResult WornEvent := do
  ensureSample access expr
  let seq ← requiredU64 access expr "seq" "worn event"
  let sensor ← mapDeviceError access (access.requiredSym expr "sensor" "worn event")
  let value ← mapDeviceError access (access.required expr "value" "worn event")
  new seq sensor value

end WornEvent

end StreamHost.Wristbridge
