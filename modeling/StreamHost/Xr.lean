import StreamHost.Kernel

/-! Samples of the XR crates, by what the device routes observe of them. -/

namespace StreamHost

structure XrPoseSample where
  seq : UInt64
  dof : UInt8
  positioned : Bool
  expr : Expr

structure XrTapSample where
  seq : UInt64
  device : Symbol
  expr : Expr

structure XrMicChunkRef where
  seq : UInt64
  expr : Expr

structure XrCameraFrameRef where
  seq : UInt64
  device : Symbol
  widthPx : UInt32
  heightPx : UInt32
  stereo : Bool
  expr : Expr

/-- Building camera frame references: sequence, device, camera, frame key, size,
time and whether the frames are paired. -/
structure XrCameraRefs where
  new : UInt64 → Symbol → Symbol → Symbol → UInt32 × UInt32 → UInt64 → Bool → Except String XrCameraFrameRef
  frameKey : XrCameraFrameRef → Symbol

inductive XrTrackingStatus where
  | tracked
  | limited
  | lost
deriving DecidableEq, Repr

end StreamHost
