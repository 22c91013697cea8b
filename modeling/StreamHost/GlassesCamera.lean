import StreamHost.Glasses
import StreamHost.Xr

/-! Storing a camera payload under consent, as the glasses crates do it. -/

namespace StreamHost

/-- What the camera crates take from outside: field access, builders, camera
references and the consent gate. -/
structure CameraExternals (Cx : Type) where
  access : Access
  build : Build
  refs : XrCameraRefs
  requireWithConsent : Cx → String → ConsentReceipt → EdgeId → Result Unit

/-- The reference is built and checked before the store is touched. A key that
does not match is noticed only afterwards. -/
def storeCameraFrame {Cx : Type} (externals : CameraExternals Cx) (cx : Cx) (store : BoundedContentStore)
    (receipt : ConsentReceipt) (session : EdgeId) (toRef : Except String XrCameraFrameRef) (frameKey : Symbol)
    (payload : Expr) (sizeBytes insertedTick : UInt64) (mismatch : String) :
    Result (XrCameraFrameRef × List StoreEvicted) × BoundedContentStore :=
  match toRef with
  | .error error => (.error (.hostError error), store)
  | .ok sample =>
    match requireGlassesSampleIngest externals.requireWithConsent externals.access cx sample.expr receipt session with
    | .error error => (.error error, store)
    | .ok _ =>
      match storeGlassesFrame externals.build store .camera frameKey payload receipt insertedTick sizeBytes with
      | (.error error, after) => (.error error, after)
      | (.ok (key, evicted), after) =>
        if key.symbol ≠ externals.refs.frameKey sample then (.error (.hostError mismatch), after)
        else (.ok (sample, evicted), after)

end StreamHost
