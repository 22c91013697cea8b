import StreamHost.CommandFields

/-! VITURE display and sensor command validation. -/

namespace StreamHost.Viture

structure LegacyImuRate where
  hz : UInt32
deriving DecidableEq, Repr

inductive VitureCommandKind where
  | imuReports
  | imuRate
  | display3d
  | brightness
  | privacyFilm
deriving DecidableEq, Repr

namespace VitureCommandKind

def token : VitureCommandKind → String
  | imuReports => "imu-reports"
  | imuRate => "imu-rate"
  | display3d => "display-3d"
  | brightness => "brightness"
  | privacyFilm => "privacy-film"

def fromSymbol (symbol : Symbol) : DeviceResult VitureCommandKind :=
  if symbol.ns ≠ some "viture/command" then .error (.host "VITURE command symbol must be in viture/command") else
  match symbol.name with
  | "imu-reports" => .ok imuReports
  | "imu-rate" => .ok imuRate
  | "display-3d" => .ok display3d
  | "brightness" => .ok brightness
  | "privacy-film" => .ok privacyFilm
  | other => .error (.host s!"unknown VITURE command {other}")

end VitureCommandKind

inductive VitureControlPacket where
  | imuReports (enabled : Bool)
  | imuRate (rate : LegacyImuRate)
  | display3d (enabled : Bool)
  | brightness (level : UInt8)
  | privacyFilm (level : UInt8)
deriving DecidableEq, Repr

def vitureCommandSymbol (kind : VitureCommandKind) : Symbol := .qualified "viture/command" kind.token

namespace VitureControlPacket

def kind : VitureControlPacket → VitureCommandKind
  | imuReports _ => .imuReports
  | imuRate _ => .imuRate
  | display3d _ => .display3d
  | brightness _ => .brightness
  | privacyFilm _ => .privacyFilm

def toExpr (build : Build) (packet : VitureControlPacket) : Expr :=
  build.map ([
    ("kind", build.qsym "stream/viture" "control-packet"),
    ("command", .symbol (vitureCommandSymbol packet.kind))] ++
    match packet with
    | imuReports enabled | display3d enabled => [("enabled", .bool enabled)]
    | imuRate rate => [("hz", build.uint rate.hz.toUInt64)]
    | brightness level | privacyFilm level => [("level", build.uint level.toUInt64)])

end VitureControlPacket

section Encode
variable (access : Access) (rateNew : UInt32 → Option LegacyImuRate)

def ensureCommandFields (command : Expr) (variantFields : List String) : DeviceResult Unit :=
  access.ensureNoExtra command (["kind", "command"] ++ variantFields) "VITURE command"

def requiredU64 (expr : Expr) (field context : String) : DeviceResult UInt64 := access.requiredU64 .host expr field context

def requiredU32 (expr : Expr) (field context : String) : DeviceResult UInt32 := do
  let value ← requiredU64 access expr field context
  if value.toNat < UInt32.size then return value.toUInt32
  else .error (.host s!"{context} field {field} is not u32")

def requiredPercent (expr : Expr) (field context : String) : DeviceResult UInt8 := do
  let value ← requiredU64 access expr field context
  if value.toNat < UInt8.size ∧ value.toUInt8 ≤ 100 then return value.toUInt8
  else .error (.host s!"{context} field {field} must be 0 through 100")

def encodeVitureCommand (command : Expr) : DeviceResult VitureControlPacket := do
  access.ensureKind command "view-viture" "command" "VITURE command"
  let symbol ← access.mapHostError (access.requiredSym command "command" "VITURE command")
  match ← VitureCommandKind.fromSymbol symbol with
  | .imuReports =>
    ensureCommandFields access command ["enabled"]
    return .imuReports (← access.mapHostError (access.requiredBool command "enabled" "VITURE IMU command"))
  | .imuRate =>
    ensureCommandFields access command ["hz"]
    let hz ← requiredU32 access command "hz" "VITURE IMU rate command"
    match rateNew hz with
    | some rate => return .imuRate rate
    | none => .error (.host "VITURE IMU rate command hz must be greater than zero")
  | .display3d =>
    ensureCommandFields access command ["enabled"]
    return .display3d (← access.mapHostError (access.requiredBool command "enabled" "VITURE 3D command"))
  | .brightness =>
    ensureCommandFields access command ["level"]
    return .brightness (← requiredPercent access command "level" "VITURE brightness command")
  | .privacyFilm =>
    ensureCommandFields access command ["level"]
    return .privacyFilm (← requiredPercent access command "level" "VITURE privacy-film command")

end Encode

end StreamHost.Viture
