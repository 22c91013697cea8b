import StreamHost.GlassesCamera

/-! Consent-gated one-shot Halo camera capture. -/

namespace StreamHost.Halo

def haloCameraSizePx : UInt32 × UInt32 := (640, 480)

/-- One explicit camera pull; an empty payload cannot be pulled. -/
structure HaloCameraPull where
  seq : UInt64
  frameKey : Symbol
  tNs : UInt64
  payload : Expr
  sizeBytes : UInt64
  nonempty : sizeBytes ≠ 0

namespace HaloCameraPull

def new (seq : UInt64) (frameKey : Symbol) (tNs : UInt64) (payload : Expr) (sizeBytes : UInt64) : Result HaloCameraPull :=
  if empty : sizeBytes = 0 then .error (.eval "Halo camera pull size must be nonzero")
  else .ok { seq, frameKey, tNs, payload, sizeBytes, nonempty := empty }

def toRef (symbols : SampleSymbols) (refs : XrCameraRefs) (pull : HaloCameraPull) : Except String XrCameraFrameRef :=
  refs.new pull.seq symbols.haloDevice (.qualified "stream/xr-camera" "halo-rgb") pull.frameKey haloCameraSizePx
    pull.tNs false

end HaloCameraPull

def pullHaloCameraOnce {Cx : Type} (externals : CameraExternals Cx) (symbols : SampleSymbols) (cx : Cx)
    (store : BoundedContentStore) (receipt : ConsentReceipt) (session : EdgeId) (pull : HaloCameraPull)
    (insertedTick : UInt64) : Result (XrCameraFrameRef × List StoreEvicted) × BoundedContentStore :=
  storeCameraFrame externals cx store receipt session (pull.toRef symbols externals.refs) pull.frameKey pull.payload
    pull.sizeBytes insertedTick "stored Halo frame key did not match emitted camera ref"

end StreamHost.Halo
