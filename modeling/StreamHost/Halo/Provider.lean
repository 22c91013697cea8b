import StreamHost.EffectSession
import StreamHost.Halo.FrameBudget
import StreamHost.Halo.Sample
import StreamHost.Lib.WhiteSpace
import StreamHost.Xr

/-! Halo provider and session wiring. -/

namespace StreamHost.Halo
open Std

/-- What a Halo session takes from outside the repository: the length of debug
renderings, reading glance cards, rendering errors, and building samples. -/
structure HaloExternals where
  debugLen : Expr → Nat
  fromScene : Expr → Result GlanceCard
  errorText : Error → String
  build : Build
  symbols : SampleSymbols

inductive HaloRouteKind where
  | ble
  | webBluetooth
  | relay
  | stub
deriving DecidableEq, Repr

inductive HaloSample where
  | motion (sample : XrPoseSample)
  | tap (sample : XrTapSample)
  | button (sample : HaloButtonSample)
  | mic (sample : XrMicChunkRef)
  | camera (sample : XrCameraFrameRef)

namespace HaloSample

def sampleKind : HaloSample → String
  | motion _ => "xr/pose"
  | tap _ => "xr/tap"
  | button _ => "xr/button"
  | mic _ => "xr/mic-chunk"
  | camera _ => "xr/camera-frame"

def seq : HaloSample → UInt64
  | motion sample => sample.seq
  | tap sample => sample.seq
  | button sample => sample.seq
  | mic sample => sample.seq
  | camera sample => sample.seq

def toExpr (externals : HaloExternals) : HaloSample → Expr
  | motion sample => sample.expr
  | tap sample => sample.expr
  | button sample => sample.toExpr externals.build externals.symbols
  | mic sample => sample.expr
  | camera sample => sample.expr

def isCamera : HaloSample → Bool
  | camera _ => true
  | _ => false

def validate (symbols : SampleSymbols) : HaloSample → DeviceResult Unit
  | motion sample => .rejectIf (sample.dof ≠ 3 ∨ sample.positioned)
      (.sample "Halo motion samples must be 3DoF orientation hints")
  | tap sample => .rejectIf (sample.device ≠ symbols.haloDevice)
      (.sample "Halo tap sample has the wrong device identity")
  | camera sample => .rejectIf
      (sample.device ≠ symbols.haloDevice ∨ sample.widthPx ≠ 640 ∨ sample.heightPx ≠ 480 ∨ sample.stereo)
      (.sample "Halo camera samples must be mono 640x480 frame references")
  | button _ | mic _ => .ok ()

end HaloSample

def requireText (value : String) (name : String) : DeviceResult Unit :=
  .rejectIf value.trimsToNothing (.host s!"{name} must not be empty")

structure BlueZLink where
  adapter : String
  device : String
  samples : List HaloSample

def BlueZLink.openSamples (link : BlueZLink) : DeviceResult (List HaloSample) := do
  requireText link.adapter "BlueZ adapter"
  requireText link.device "BlueZ device"
  return link.samples

structure WebBluetoothLink where
  device : String
  samples : List HaloSample

def WebBluetoothLink.openSamples (link : WebBluetoothLink) : DeviceResult (List HaloSample) := do
  requireText link.device "Web Bluetooth device"
  return link.samples

structure RelayLink where
  endpoint : String
  samples : List HaloSample

def RelayLink.openSamples (link : RelayLink) : DeviceResult (List HaloSample) := do
  requireText link.endpoint "Halo relay endpoint"
  return link.samples

inductive HaloRoute where
  | ble (link : BlueZLink)
  | webBluetooth (link : WebBluetoothLink)
  | relay (link : RelayLink)
  | stub

structure SampleScan where
  lastSeq : ExtTreeMap String UInt64
  cameraCount : Nat

def scanSample (symbols : SampleSymbols) (scan : SampleScan) (sample : HaloSample) : DeviceResult SampleScan := do
  sample.validate symbols
  let cameraCount := if sample.isCamera then scan.cameraCount + 1 else scan.cameraCount
  .rejectIf (sample.isCamera ∧ 1 < cameraCount)
    (.sample "Halo routes accept at most one opt-in camera pull per session")
  .rejectIf (scan.lastSeq[sample.sampleKind]?.any (sample.seq < ·))
    (.sample s!"Halo {sample.sampleKind} sequence moved backwards")
  return ⟨scan.lastSeq.insert sample.sampleKind sample.seq, cameraCount⟩

def validateSamples (symbols : SampleSymbols) (samples : List HaloSample) : DeviceResult Unit := do
  let _ ← samples.foldlM (scanSample symbols) ⟨∅, 0⟩

structure HaloFramePacket where
  route : HaloRouteKind
  diff : FrameDiff
  lua : ByteArray

structure HaloSession where
  profile : DeviceProfile
  route : HaloRouteKind
  samples : List HaloSample
  frameBudget : LuaFrameBudget
  scheduler : LuaFrameScheduler
  sent : List HaloFramePacket
  started : Bool

namespace HaloSession

def new (route : HaloRouteKind) (samples : List HaloSample) (profile : DeviceProfile) (frameBudget : LuaFrameBudget) :
    HaloSession :=
  { profile, route, samples, frameBudget, scheduler := .empty, sent := [], started := false }

def requireStarted (session : HaloSession) : DeviceResult Unit :=
  if session.started then .ok () else .error (.host "Halo session is not started")

def start (session : HaloSession) : DeviceResult Unit × HaloSession := (.ok (), { session with started := true })

def poll (externals : HaloExternals) (kind : String) (session : HaloSession) : DeviceResult (Option Expr) × HaloSession :=
  match session.requireStarted with
  | .error error => (.error error, session)
  | .ok () =>
    match session.samples.findIdx? (·.sampleKind = kind) with
    | none => (.ok none, session)
    | some index =>
      (.ok (session.samples[index]?.map (HaloSample.toExpr externals)),
        { session with samples := session.samples.eraseIdx index })

def stop (session : HaloSession) : DeviceResult Unit × HaloSession := (.ok (), { session with started := false })

def descriptor : EffectDescriptor := standardEffectDescriptor "halo-frame"

def invoke (externals : HaloExternals) (request : EffectRequest) (session : HaloSession) :
    DeviceResult EffectReceipt × HaloSession :=
  match descriptor.authorize externals.debugLen request with
  | .error error => (.error error, session)
  | .ok () =>
    match session.requireStarted with
    | .error error => (.error error, session)
    | .ok () =>
      match session.scheduler.schedule externals.fromScene request.payload session.frameBudget with
      | (.error error, scheduler) => (.error (.host (externals.errorText error)), { session with scheduler })
      | (.ok diff, scheduler) =>
        let lua := encodeLuaCells diff.cells
        if diff.bytes.toNat ≠ lua.size then
          (.error (.host "Halo Lua frame byte count mismatch"), { session with scheduler })
        else
          let sent := session.sent ++ [⟨session.route, diff, lua⟩]
          (.ok ⟨descriptor.receipt, descriptor.id, UInt64.ofNat sent.length⟩, { session with scheduler, sent })

def session (externals : HaloExternals) : EffectSession HaloSession where
  profile := HaloSession.profile
  start := start
  poll := poll externals
  stop := stop
  invoke := invoke externals

end HaloSession

structure HaloProvider where
  route : HaloRoute
  profile : DeviceProfile
  frameBudget : LuaFrameBudget

def HaloProvider.openSession (symbols : SampleSymbols) (provider : HaloProvider) : DeviceResult HaloSession := do
  let (route, samples) ← (match provider.route with
    | .ble link => link.openSamples.map (HaloRouteKind.ble, ·)
    | .webBluetooth link => link.openSamples.map (HaloRouteKind.webBluetooth, ·)
    | .relay link => link.openSamples.map (HaloRouteKind.relay, ·)
    | .stub => .error .unsupported)
  validateSamples symbols samples
  return HaloSession.new route samples provider.profile provider.frameBudget

end StreamHost.Halo
