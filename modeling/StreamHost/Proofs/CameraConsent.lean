import StreamHost.Halo.Camera
import StreamHost.Proofs.ContentStore
import StreamHost.Proofs.GlassesConsent
import StreamHost.Viture.Camera

/-! Camera payloads enter the store under consent or not at all. -/

namespace StreamHost.Proofs.CameraConsent
open GlassesConsent

/-- A camera reference keeps its frame key and is written as a camera frame sample
without a world anchor. -/
structure KeepsFrames (refs : XrCameraRefs) : Prop where
  new : ∀ {seq device camera frameKey size time paired sample},
    refs.new seq device camera frameKey size time paired = .ok sample →
      refs.frameKey sample = frameKey ∧ ∃ entries, sample.expr = .map entries ∧
        symbolField entries "sample" = some (.symbol (.qualified "stream/device-sample" "xr/camera-frame")) ∧
        symbolField entries "world-anchor" = none

/-- What the camera crates rely on. -/
structure Lawful {Cx : Type} (holds : Cx → CapabilityName → Prop) (externals : CameraExternals Cx) : Prop where
  reads : externals.access.ReadsSymbols
  refs : KeepsFrames externals.refs
  gate : ∀ cx name receipt session, externals.requireWithConsent cx name receipt session = .ok () →
    Consented holds cx name receipt session

variable {Cx : Type} {holds : Cx → CapabilityName → Prop} {externals : CameraExternals Cx} {cx : Cx}
  {store : BoundedContentStore} {receipt : ConsentReceipt} {session : EdgeId}

/-- All that storing a camera frame can do. Each refusal is that of a step before the
store changes; in particular no stored key is found not to match. -/
inductive Stores (holds : Cx → CapabilityName → Prop) (externals : CameraExternals Cx) (cx : Cx)
    (store : BoundedContentStore) (receipt : ConsentReceipt) (session : EdgeId)
    (toRef : Except String XrCameraFrameRef) (frame : ContentFrame) :
    Result (XrCameraFrameRef × List StoreEvicted) × BoundedContentStore → Prop where
  | unreferenced {error} (failed : toRef = .error error) : Stores holds externals cx store receipt session toRef frame
      (.error (.hostError error), store)
  | unconsented {sample error} (referenced : toRef = .ok sample)
      (denied : requireGlassesSampleIngest externals.requireWithConsent externals.access cx sample.expr receipt session =
        .error error) : Stores holds externals cx store receipt session toRef frame (.error error, store)
  | oversized {error} (large : store.maxBytes < frame.sizeBytes) (refused : (store.insert frame).1 = .error error) :
      Stores holds externals cx store receipt session toRef frame (.error error, store)
  | stored {sample evicted after} (referenced : toRef = .ok sample)
      (consented : Consented holds cx "glasses/camera" receipt session)
      (named : frame.key.symbol = externals.refs.frameKey sample)
      (held : after.entries[StoreKey.new (externals.refs.frameKey sample)]? = some frame) :
      Stores holds externals cx store receipt session toRef frame (.ok (sample, evicted), after)

private theorem insert_accepts {frame : ContentFrame} (small : ¬ store.maxBytes < frame.sizeBytes) :
    ∃ evicted, (store.insert frame).1 = .ok evicted ∧ (store.insert frame).2.entries[frame.key]? = some frame := by
  rw [BoundedContentStore.insert, if_neg small]
  exact ⟨_, rfl, Std.ExtTreeMap.getElem?_insert_self⟩

/-- Two samples of the same fields are classified alike: a camera frame needs the camera. -/
theorem camera_ingest_ok (lawful : Lawful holds externals) {entries : List (Expr × Expr)}
    (named : symbolField entries "sample" = some (.symbol (.qualified "stream/device-sample" "xr/camera-frame")))
    (plain : symbolField entries "world-anchor" = none) {capability : GlassesCapability}
    (ingested : requireGlassesSampleIngest externals.requireWithConsent externals.access cx (.map entries) receipt session =
      .ok capability) : Consented holds cx "glasses/camera" receipt session := by
  have member : Symbol.qualified "stream/device-sample" "xr/camera-frame" ∈ sampleSymbols .camera :=
    List.mem_cons_of_mem _ List.mem_cons_self
  obtain ⟨passed, rfl⟩ := (ingest_ok (sample_class lawful.reads plain named member)).mp ingested
  exact lawful.gate cx _ receipt session passed

theorem storeCameraFrame_stores (lawful : Lawful holds externals) {toRef : Except String XrCameraFrameRef}
    {seq : UInt64} {device camera frameKey : Symbol} {size : UInt32 × UInt32} {time : UInt64} {paired : Bool}
    (built : toRef = externals.refs.new seq device camera frameKey size time paired) (payload : Expr)
    (sizeBytes insertedTick : UInt64) (mismatch : String) :
    Stores holds externals cx store receipt session toRef
      (glassesFrame externals.build .camera frameKey payload receipt insertedTick sizeBytes)
      (storeCameraFrame externals cx store receipt session toRef frameKey payload sizeBytes insertedTick mismatch) := by
  unfold storeCameraFrame
  cases referenced : toRef with
  | error error => exact .unreferenced rfl
  | ok sample =>
    obtain ⟨kept, entries, written, named, plain⟩ := lawful.refs.new (built.symm.trans referenced)
    simp only []
    cases ingested : requireGlassesSampleIngest externals.requireWithConsent externals.access cx sample.expr receipt
        session with
    | error error => exact .unconsented rfl ingested
    | ok capability =>
      rw [written] at ingested
      have consented := camera_ingest_ok lawful named plain ingested
      simp only [storeGlassesFrame]
      generalize framed : glassesFrame externals.build .camera frameKey payload receipt insertedTick sizeBytes = frame
      have key : frame.key = .new frameKey := by rw [← framed]; rfl
      by_cases large : store.maxBytes < frame.sizeBytes
      · rw [BoundedContentStore.insert_rejects large]
        exact .oversized large (congrArg Prod.fst (BoundedContentStore.insert_rejects large))
      · obtain ⟨evicted, accepted, held⟩ := insert_accepts large
        have split : store.insert frame = (.ok evicted, (store.insert frame).2) := Prod.ext accepted rfl
        have matching : ¬ (StoreKey.new frameKey).symbol ≠ externals.refs.frameKey sample := by
          rw [kept]
          exact not_not.mpr rfl
        rw [split]
        simp only [Prod.map, Except.map, if_neg matching]
        refine .stored rfl consented ?_ ?_
        · rw [key, kept]
          rfl
        · rw [kept, ← key]
          exact held

/-- References written as bare camera frame samples with their frame key. -/
def plainRefs : XrCameraRefs where
  new seq device _ frameKey size _ paired := .ok
    { seq, device, widthPx := size.1, heightPx := size.2, stereo := paired
      expr := .map (cameraEntries ++ [(.symbol (.new "frame-key"), .symbol frameKey)]) }
  frameKey sample := match sample.expr with
    | .map entries => ((firstField entries "frame-key").bind Expr.asSymbol).getD (.new "none")
    | _ => .new "none"

def plainCamera : CameraExternals (List CapabilityName) := ⟨plainAccess, plainBuild, plainRefs, plainGate⟩

theorem plainCamera_lawful : Lawful (fun cx capability => capability ∈ cx) plainCamera where
  reads := plainAccess_reads
  refs := ⟨by rintro _ _ _ _ _ _ _ _ ⟨⟩; exact ⟨rfl, _, rfl, rfl, rfl⟩⟩
  gate := plainGate_sound

def plainSymbols : SampleSymbols := ⟨.new "record", .qualified "stream/device-sample", .new "halo"⟩

def cameraReceipt : ConsentReceipt := ⟨[.qualified "glasses" "camera"], 1000, ⟨.new "edge"⟩, 1⟩

def onePull : Halo.HaloCameraPull := ⟨1, .new "frame", 0, .nil, 4, by decide⟩

end StreamHost.Proofs.CameraConsent
