import StreamHost.Wristbridge.Event

/-! Watch command validation and route packet encoding. -/

namespace StreamHost.Wristbridge

inductive WatchRouteKind where
  | ble
  | relay
  | zeppBridge
  | fileImport
deriving DecidableEq, Repr

def WatchRouteKind.token : WatchRouteKind → String
  | ble => "ble"
  | relay => "relay"
  | zeppBridge => "zepp-bridge"
  | fileImport => "import"

inductive WatchCommandKind where
  | notify
  | haptic
  | setFaceSlot
  | setAlarm
  | privacyMode
deriving DecidableEq, Repr

namespace WatchCommandKind

def token : WatchCommandKind → String
  | notify => "notify"
  | haptic => "haptic"
  | setFaceSlot => "set-face-slot"
  | setAlarm => "set-alarm"
  | privacyMode => "privacy-mode"

def fromSymbol (symbol : Symbol) : DeviceResult WatchCommandKind :=
  if symbol.ns ≠ some "watch/command" then .error (.host "watch command symbol must be in watch/command") else
  match symbol.name with
  | "notify" => .ok notify
  | "haptic" => .ok haptic
  | "set-face-slot" => .ok setFaceSlot
  | "set-alarm" => .ok setAlarm
  | "privacy-mode" => .ok privacyMode
  | other => .error (.host s!"unknown watch command {other}")

end WatchCommandKind

structure WatchCommandPacket where
  route : WatchRouteKind
  command : WatchCommandKind
  payload : Expr

def WatchCommandPacket.toExpr (build : Build) (packet : WatchCommandPacket) : Expr :=
  build.map [
    ("kind", build.qsym "stream/wristbridge" "command-packet"),
    ("route", build.qsym "stream/wristbridge-route" packet.route.token),
    ("command", build.qsym "watch/command" packet.command.token),
    ("payload", packet.payload)]

section Validate
variable (access : Access)

def ensureCommandFields (command : Expr) (variantFields : List String) : DeviceResult Unit :=
  access.ensureNoExtra command (["kind", "command"] ++ variantFields) "watch command"

def validateNotify (command : Expr) : DeviceResult Unit := do
  ensureCommandFields access command ["title", "lines", "urgency"]
  let _ ← access.mapHostError (access.requiredStr command "title" "watch notify command")
  let lines ← access.requiredList command "lines" "watch notify command"
  .rejectIf (lines.any fun line => !line.isString) (.host "watch notify command lines contain a non-string")
  let urgency ← access.mapHostError (access.requiredSym command "urgency" "watch notify command")
  .rejectIf (urgency.name ∉ ["info", "warn", "error", "critical"]) (.host s!"unknown watch urgency {urgency.name}")

def validateStep (step : Expr) : DeviceResult Unit := do
  access.ensureNoExtra step ["on-ms", "off-ms"] "watch haptic step"
  let _ ← requiredU64 access step "on-ms" "watch haptic step"
  let _ ← requiredU64 access step "off-ms" "watch haptic step"
  return ()

def validateHaptic (command : Expr) : DeviceResult Unit := do
  ensureCommandFields access command ["pattern"]
  let pattern ← access.mapHostError (access.required command "pattern" "watch haptic command")
  access.ensureKind pattern "view-wrist" "haptic-pattern" "watch haptic pattern"
  access.ensureNoExtra pattern ["kind", "id", "steps", "meaning", "repeat"] "watch haptic pattern"
  let _ ← access.mapHostError (access.requiredSym pattern "id" "watch haptic pattern")
  let _ ← access.mapHostError (access.requiredSym pattern "meaning" "watch haptic pattern")
  let steps ← access.requiredList pattern "steps" "watch haptic pattern"
  .rejectIf steps.isEmpty (.host "watch haptic pattern requires at least one step")
  steps.forM (validateStep access)
  let repeats ← requiredU64 access pattern "repeat" "watch haptic pattern"
  .rejectIf (repeats = 0) (.host "watch haptic pattern repeat must be greater than zero")

def validateSetFaceSlot (command : Expr) : DeviceResult Unit := do
  ensureCommandFields access command ["slot", "value"]
  let _ ← access.mapHostError (access.requiredStr command "slot" "watch face-slot command")
  let _ ← access.mapHostError (access.required command "value" "watch face-slot command")
  return ()

def validateSetAlarm (command : Expr) : DeviceResult Unit := do
  ensureCommandFields access command ["id", "at-ms", "label"]
  let _ ← access.mapHostError (access.requiredStr command "id" "watch alarm command")
  let _ ← requiredU64 access command "at-ms" "watch alarm command"
  let _ ← access.mapHostError (access.requiredStr command "label" "watch alarm command")
  return ()

def validatePrivacy (command : Expr) : DeviceResult Unit := do
  ensureCommandFields access command ["enabled", "window-ms"]
  let _ ← access.mapHostError (access.requiredBool command "enabled" "watch privacy command")
  let _ ← requiredU64 access command "window-ms" "watch privacy command"
  return ()

def encodeWatchCommand (route : WatchRouteKind) (command : Expr) : DeviceResult WatchCommandPacket := do
  access.ensureKind command "view-wrist" "command" "watch command"
  let symbol ← access.mapHostError (access.requiredSym command "command" "watch command")
  let commandKind ← WatchCommandKind.fromSymbol symbol
  match commandKind with
  | .notify => validateNotify access command
  | .haptic => validateHaptic access command
  | .setFaceSlot => validateSetFaceSlot access command
  | .setAlarm => validateSetAlarm access command
  | .privacyMode => validatePrivacy access command
  return { route, command := commandKind, payload := command }

end Validate

end StreamHost.Wristbridge
