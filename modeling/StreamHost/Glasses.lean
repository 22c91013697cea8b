import StreamHost.Lib.Result
import StreamHost.SimValue
import StreamHost.StoreEvict

/-! Provider-side consent gates for glasses samples: which capability a sample
needs, and the retention its receipt assigns to stored frames. -/

namespace StreamHost

structure EdgeId where
  symbol : Symbol
deriving DecidableEq, Repr

structure ConsentReceipt where
  grants : List Symbol
  retainMs : UInt64
  session : EdgeId
  seq : UInt64
deriving DecidableEq, Repr

inductive GlassesCapability where
  | pose
  | camera
  | worldAnchor
  | hand
  | mic
  | vendorReport
deriving DecidableEq, Repr

namespace GlassesCapability

def asStr : GlassesCapability → String
  | pose => "glasses/pose"
  | camera => "glasses/camera"
  | worldAnchor => "glasses/world-anchor"
  | hand => "glasses/hand"
  | mic => "glasses/mic"
  | vendorReport => "glasses/vendor-report"

def localName : GlassesCapability → String
  | pose => "pose"
  | camera => "camera"
  | worldAnchor => "world-anchor"
  | hand => "hand"
  | mic => "mic"
  | vendorReport => "vendor-report"

def capabilityName (capability : GlassesCapability) : CapabilityName := .new capability.asStr

def grantSymbol (capability : GlassesCapability) : Symbol := .qualified "glasses" capability.localName

end GlassesCapability

/-- The field `world-anchor` is looked at before the sample's own name. -/
def glassesCapabilityForSample (access : Access) (sample : Expr) : Result GlassesCapability :=
  if (access.field sample "world-anchor").isSome then .ok .worldAnchor else
  match (access.fieldSym sample "sample").or (access.fieldSym sample "kind") with
  | none => .error (.eval "missing glasses sample or kind field")
  | some symbol =>
    match symbol.ns, symbol.name with
    | some "xr", "pose" => .ok .pose
    | some "xr", "camera-frame" => .ok .camera
    | some "xr", "hand" => .ok .hand
    | some "xr", "mic-chunk" => .ok .mic
    | some "stream/device-sample", "xr/pose" => .ok .pose
    | some "stream/device-sample", "xr/camera-frame" => .ok .camera
    | some "stream/device-sample", "xr/hand" => .ok .hand
    | some "stream/device-sample", "xr/mic-chunk" => .ok .mic
    | some "glasses", "world-anchor" => .ok .worldAnchor
    | some "glasses", "vendor-report" => .ok .vendorReport
    | _, _ => .error (.hostError s!"no glasses consent capability for {symbol}")

section Consent
variable {Cx : Type} (requireWithConsent : Cx → String → ConsentReceipt → EdgeId → Result Unit)

def requireGlassesConsent (cx : Cx) (capability : GlassesCapability) (receipt : ConsentReceipt) (session : EdgeId) :
    Result Unit := requireWithConsent cx capability.asStr receipt session

def requireGlassesSampleIngest (access : Access) (cx : Cx) (sample : Expr) (receipt : ConsentReceipt)
    (session : EdgeId) : Result GlassesCapability := do
  let capability ← glassesCapabilityForSample access sample
  requireGlassesConsent requireWithConsent cx capability receipt session
  return capability

end Consent

def storedGlassesValue (build : Build) (capability : GlassesCapability) (value : Expr) : Expr :=
  build.map [
    ("kind", build.qsym "glasses" "content-frame"),
    ("capability", .symbol capability.grantSymbol),
    (capability.localName, value)]

/-- The frame under which a glasses payload is stored, by its receipt. -/
def glassesFrame (build : Build) (capability : GlassesCapability) (refId : Symbol) (value : Expr)
    (receipt : ConsentReceipt) (insertedTick sizeBytes : UInt64) : ContentFrame where
  key := .new refId
  session := receipt.session.symbol
  receiptSeq := receipt.seq
  insertedTick := insertedTick
  sizeBytes := sizeBytes
  value := storedGlassesValue build capability value

def storeGlassesFrame (build : Build) (store : BoundedContentStore) (capability : GlassesCapability) (refId : Symbol)
    (value : Expr) (receipt : ConsentReceipt) (insertedTick sizeBytes : UInt64) :
    Result (StoreKey × List StoreEvicted) × BoundedContentStore :=
  (store.insert (glassesFrame build capability refId value receipt insertedTick sizeBytes)).map
    (Except.map fun evicted => (.new refId, evicted)) id

def glassesRetentionWindows (receipts : List ConsentReceipt) : List RetentionWindow :=
  (receipts.filter fun receipt => receipt.grants.any (·.ns = some "glasses")).map fun receipt =>
    ⟨receipt.session.symbol, receipt.seq, receipt.retainMs⟩

def sweepGlassesRetention (store : BoundedContentStore) (receipts : List ConsentReceipt) (nowTick : UInt64)
    (adaptHz : UInt16) : List StoreEvicted × BoundedContentStore :=
  store.sweepRetention nowTick adaptHz (glassesRetentionWindows receipts)

end StreamHost
