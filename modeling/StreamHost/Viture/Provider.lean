import StreamHost.EffectSession
import StreamHost.Lib.Saturating
import StreamHost.Viture.DeviceControl
import StreamHost.Xr

/-! VITURE session wiring over a physical session behind the vendor's trait. -/

namespace StreamHost.Viture

def viturePoseSampleKind : String := "xr/pose"

def vitureCameraSampleKind : String := "xr/camera-frame"

def defaultPoseStepNs : UInt64 := 16666667

/-- Coordinates by their bit patterns; the modelled code only passes them on. -/
abbrev Coordinates := List UInt64

inductive PhysicalDeviceCommand where
  | imuReports (enabled : Bool)
  | imuRate (rate : LegacyImuRate)
  | display3d (enabled : Bool)
deriving DecidableEq, Repr

inductive PhysicalDeviceSample where
  | pose (pose : Coordinates) (tracked : Bool)
  | other
deriving DecidableEq, Repr

inductive VitureError where
  | unsupported
  | other (text : String)
deriving DecidableEq, Repr

/-- The trait of physical sessions: what a session answers, and its next state. -/
structure DevicePhysicalSession (ρ : Type) where
  start : ρ → Except VitureError Unit × ρ
  poll : ρ → Except VitureError (Option PhysicalDeviceSample) × ρ
  send : PhysicalDeviceCommand → ρ → Except VitureError Unit × ρ
  close : ρ → Except VitureError Unit × ρ

inductive PhysicalCall where
  | start
  | poll
  | send (command : PhysicalDeviceCommand)
  | close
deriving DecidableEq, Repr

/-- The same physical session, with a record of the calls it got. -/
def DevicePhysicalSession.logged {ρ : Type} (physical : DevicePhysicalSession ρ) :
    DevicePhysicalSession (ρ × List PhysicalCall) where
  start state := (physical.start state.1).map id fun next => (next, state.2 ++ [.start])
  poll state := (physical.poll state.1).map id fun next => (next, state.2 ++ [.poll])
  send command state := (physical.send command state.1).map id fun next => (next, state.2 ++ [.send command])
  close state := (physical.close state.1).map id fun next => (next, state.2 ++ [.close])

/-- What a VITURE session takes from outside the repository: the length of debug
renderings, field access, the check of IMU rates, and building pose samples. -/
structure VitureExternals where
  debugLen : Expr → Nat
  access : Access
  rateNew : UInt32 → Option LegacyImuRate
  poseNew : UInt64 → Option Coordinates → Coordinates → UInt64 → UInt64 → UInt8 → XrTrackingStatus →
    Except String XrPoseSample

inductive VitureSessionRoute (ρ : Type) where
  | carina (session : ρ) (seq : UInt64)
  | legacyImu (session : ρ) (orientation : Coordinates) (seq : UInt64)
  | scripted (samples : List XrPoseSample) (cameraFrames : List XrCameraFrameRef)

structure VitureSession (ρ : Type) where
  profile : DeviceProfile
  route : VitureSessionRoute ρ
  sent : List VitureControlPacket
  started : Bool

def mapSampleError {α : Type} (result : Except String α) : DeviceResult α := result.mapError .sample

def mapVitureError {α : Type} (result : Except VitureError α) : DeviceResult α :=
  result.mapError fun
    | .unsupported => .unsupported
    | .other text => .host text

def sampleTimeNs (seq : UInt64) : UInt64 := seq.saturatingMul defaultPoseStepNs

def carinaPoseSample (externals : VitureExternals) (seq predictNs : UInt64) (pose : Coordinates)
    (status : XrTrackingStatus) : DeviceResult XrPoseSample :=
  mapSampleError (externals.poseNew seq (some (pose.take 3)) (pose.drop 3) (sampleTimeNs seq) predictNs 6 status)

namespace VitureSessionRoute
variable {ρ : Type}

def onSession {α : Type} (call : ρ → Except VitureError α × ρ) :
    VitureSessionRoute ρ → Option (DeviceResult α × VitureSessionRoute ρ)
  | carina session seq => some ((call session).map mapVitureError (.carina · seq))
  | legacyImu session orientation seq => some ((call session).map mapVitureError (.legacyImu · orientation seq))
  | scripted _ _ => none

def physicalCalls : VitureSessionRoute (ρ × List PhysicalCall) → List PhysicalCall
  | carina session _ | legacyImu session _ _ => session.2
  | scripted _ _ => []

end VitureSessionRoute

def VitureControlPacket.physicalCommand : VitureControlPacket → Option PhysicalDeviceCommand
  | imuReports enabled => some (.imuReports enabled)
  | imuRate rate => some (.imuRate rate)
  | display3d enabled => some (.display3d enabled)
  | brightness _ | privacyFilm _ => none

/-- Scripted routes accept every packet. -/
def applyControlPacket {ρ : Type} (physical : DevicePhysicalSession ρ) (route : VitureSessionRoute ρ)
    (packet : VitureControlPacket) : DeviceResult Unit × VitureSessionRoute ρ :=
  match packet.physicalCommand with
  | none => (.ok (), route)
  | some command => (route.onSession (physical.send command)).getD (.ok (), route)

namespace VitureSession
variable {ρ : Type} (externals : VitureExternals) (physical : DevicePhysicalSession ρ)

def carina (session : ρ) (profile : DeviceProfile) : VitureSession ρ :=
  { profile, route := .carina session 0, sent := [], started := false }

def legacyImu (session : ρ) (orientation : Coordinates) (profile : DeviceProfile) : DeviceResult (VitureSession ρ) := do
  let _ ← mapSampleError (externals.poseNew 0 none orientation 0 0 3 .limited)
  return { profile, route := .legacyImu session orientation 0, sent := [], started := false }

def scripted (samples : List XrPoseSample) (cameraFrames : List XrCameraFrameRef) (profile : DeviceProfile) :
    VitureSession ρ :=
  { profile, route := .scripted samples cameraFrames, sent := [], started := false }

def start (session : VitureSession ρ) : DeviceResult Unit × VitureSession ρ :=
  match session.route.onSession physical.start with
  | some (.error error, route) => (.error error, { session with route })
  | some (.ok (), route) => (.ok (), { session with route, started := true })
  | none => (.ok (), { session with started := true })

def poll (kind : String) (session : VitureSession ρ) : DeviceResult (Option Expr) × VitureSession ρ :=
  if kind ≠ viturePoseSampleKind ∧ kind ≠ vitureCameraSampleKind then (.ok none, session) else
  match session.route with
  | .carina state seq =>
    if kind = vitureCameraSampleKind then (.ok none, session) else
    match physical.poll state with
    | (.error error, state) => (mapVitureError (.error error), { session with route := .carina state seq })
    | (.ok (some (.pose pose tracked)), state) =>
      match carinaPoseSample externals seq 0 pose (if tracked then .tracked else .lost) with
      | .error error => (.error error, { session with route := .carina state seq })
      | .ok sample => (.ok (some sample.expr), { session with route := .carina state (seq.saturatingAdd 1) })
    | (.ok _, state) => (.ok none, { session with route := .carina state seq })
  | .legacyImu state orientation seq =>
    if kind = vitureCameraSampleKind then (.ok none, session) else
    match mapSampleError (externals.poseNew seq none orientation (sampleTimeNs seq) 0 3 .limited) with
    | .error error => (.error error, session)
    | .ok sample =>
      (.ok (some sample.expr), { session with route := .legacyImu state orientation (seq.saturatingAdd 1) })
  | .scripted samples cameraFrames =>
    if kind = vitureCameraSampleKind then
      (.ok (cameraFrames.head?.map XrCameraFrameRef.expr), { session with route := .scripted samples cameraFrames.tail })
    else (.ok (samples.head?.map XrPoseSample.expr), { session with route := .scripted samples.tail cameraFrames })

def stop (session : VitureSession ρ) : DeviceResult Unit × VitureSession ρ :=
  match session.route.onSession physical.close with
  | some (.error error, route) => (.error error, { session with route })
  | some (.ok (), route) => (.ok (), { session with route, started := false })
  | none => (.ok (), { session with started := false })

def descriptor : EffectDescriptor := standardEffectDescriptor "viture-control"

def invoke (request : EffectRequest) (session : VitureSession ρ) : DeviceResult EffectReceipt × VitureSession ρ :=
  match descriptor.authorize externals.debugLen request with
  | .error error => (.error error, session)
  | .ok () =>
    match encodeVitureCommand externals.access externals.rateNew request.payload with
    | .error error => (.error error, session)
    | .ok packet =>
      match applyControlPacket physical session.route packet with
      | (.error error, route) => (.error error, { session with route })
      | (.ok (), route) =>
        let sent := session.sent ++ [packet]
        (.ok ⟨descriptor.receipt, descriptor.id, UInt64.ofNat sent.length⟩, { session with route, sent })

def session : EffectSession (VitureSession ρ) where
  profile := VitureSession.profile
  start := start physical
  poll := poll externals physical
  stop := stop physical
  invoke := invoke externals physical

end VitureSession

/-- A configured route. Physical ports are connected by the vendor's code. -/
inductive VitureRoute (π : Type) where
  | carina (port : π)
  | legacyImu (port : π) (orientation : Coordinates)
  | scripted (samples : List XrPoseSample) (cameraFrames : List XrCameraFrameRef)
  | stub

structure VitureProvider (π : Type) where
  route : VitureRoute π
  profile : DeviceProfile

def VitureProvider.openSession {π ρ : Type} (externals : VitureExternals) (connect : π → Except VitureError ρ)
    (provider : VitureProvider π) : DeviceResult (VitureSession ρ) :=
  match provider.route with
  | .stub => .error .unsupported
  | .carina port => do
    let session ← mapVitureError (connect port)
    return .carina session provider.profile
  | .legacyImu port orientation => do
    let session ← mapVitureError (connect port)
    VitureSession.legacyImu externals session orientation provider.profile
  | .scripted samples cameraFrames => .ok (.scripted samples cameraFrames provider.profile)

end StreamHost.Viture
