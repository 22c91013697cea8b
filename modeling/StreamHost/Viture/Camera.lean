import StreamHost.GlassesCamera

/-! VITURE camera frame references and consent-gated content storage. -/

namespace StreamHost.Viture

inductive VitureCameraKind where
  | uvcRgb
  | stereoVio
deriving DecidableEq, Repr

namespace VitureCameraKind

def token : VitureCameraKind → String
  | uvcRgb => "viture-uvc-rgb"
  | stereoVio => "viture-stereo-vio"

def stereo (kind : VitureCameraKind) : Bool := kind = stereoVio

end VitureCameraKind

def vitureCameraDeviceSymbol : Symbol := .qualified "device" "viture-glasses"

def vitureCameraSymbol (kind : VitureCameraKind) : Symbol := .qualified "stream/xr-camera" kind.token

/-- One captured frame. Its fields are public, so its size is not known to be nonzero. -/
structure VitureCameraFrame where
  seq : UInt64
  camera : VitureCameraKind
  frameKey : Symbol
  sizePx : UInt32 × UInt32
  tNs : UInt64
  payload : Expr
  sizeBytes : UInt64

namespace VitureCameraFrame

def new (seq : UInt64) (camera : VitureCameraKind) (frameKey : Symbol) (sizePx : UInt32 × UInt32) (tNs : UInt64)
    (payload : Expr) (sizeBytes : UInt64) : Result VitureCameraFrame :=
  if sizeBytes = 0 then .error (.eval "VITURE camera frame size must be nonzero")
  else .ok { seq, camera, frameKey, sizePx, tNs, payload, sizeBytes }

def toRef (refs : XrCameraRefs) (frame : VitureCameraFrame) : Except String XrCameraFrameRef :=
  refs.new frame.seq vitureCameraDeviceSymbol (vitureCameraSymbol frame.camera) frame.frameKey frame.sizePx frame.tNs
    frame.camera.stereo

end VitureCameraFrame

def storeVitureCameraFrame {Cx : Type} (externals : CameraExternals Cx) (cx : Cx) (store : BoundedContentStore)
    (receipt : ConsentReceipt) (session : EdgeId) (frame : VitureCameraFrame) (insertedTick : UInt64) :
    Result (XrCameraFrameRef × List StoreEvicted) × BoundedContentStore :=
  storeCameraFrame externals cx store receipt session (frame.toRef externals.refs) frame.frameKey frame.payload
    frame.sizeBytes insertedTick "stored VITURE frame key did not match emitted camera ref"

end StreamHost.Viture
