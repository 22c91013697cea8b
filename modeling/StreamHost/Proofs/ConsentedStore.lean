import StreamHost.Lib.Since
import StreamHost.Proofs.CameraConsent
import StreamHost.Proofs.OldestFirst

/-! What the store of a glasses host holds, over any run of captures and retention sweeps:
the frames that were admitted under the camera's consent and have been retained since. -/

namespace StreamHost.Proofs.ConsentedStore
open Std BoundedContentStore GlassesConsent CameraConsent OldestFirst

/-- A payload of either device. -/
inductive Capture where
  | halo (pull : Halo.HaloCameraPull)
  | viture (frame : Viture.VitureCameraFrame)

inductive GlassesCall (Cx : Type) where
  | capture (cx : Cx) (receipt : ConsentReceipt) (session : EdgeId) (capture : Capture) (insertedTick : UInt64)
  | sweep (receipts : List ConsentReceipt) (nowTick : UInt64) (adaptHz : UInt16)

inductive GlassesAnswer where
  | captured (result : Result (XrCameraFrameRef × List StoreEvicted))
  | swept (evicted : List StoreEvicted)

section Calls
variable {Cx : Type} (externals : CameraExternals Cx) (symbols : SampleSymbols)

def Capture.frame (receipt : ConsentReceipt) (insertedTick : UInt64) : Capture → ContentFrame
  | .halo pull => glassesFrame externals.build .camera pull.frameKey pull.payload receipt insertedTick pull.sizeBytes
  | .viture frame =>
    glassesFrame externals.build .camera frame.frameKey frame.payload receipt insertedTick frame.sizeBytes

def Capture.store (cx : Cx) (receipt : ConsentReceipt) (session : EdgeId) (insertedTick : UInt64)
    (store : BoundedContentStore) : Capture → Result (XrCameraFrameRef × List StoreEvicted) × BoundedContentStore
  | .halo pull => Halo.pullHaloCameraOnce externals symbols cx store receipt session pull insertedTick
  | .viture frame => Viture.storeVitureCameraFrame externals cx store receipt session frame insertedTick

def machine : Machine BoundedContentStore (GlassesCall Cx) GlassesAnswer where
  step store call := match call with
    | .capture cx receipt session capture insertedTick =>
      (capture.store externals symbols cx receipt session insertedTick store).map .captured id
    | .sweep receipts nowTick adaptHz => (sweepGlassesRetention store receipts nowTick adaptHz).map .swept id

end Calls

abbrev GlassesEvent (Cx : Type) := Machine.Event BoundedContentStore (GlassesCall Cx) GlassesAnswer

/-- The receipt is of the frame's session and number, and grants something of the glasses. -/
def Covers (frame : ContentFrame) (receipt : ConsentReceipt) : Prop :=
  (∃ grant ∈ receipt.grants, grant.ns = some "glasses") ∧ receipt.session.symbol = frame.session ∧
    receipt.seq = frame.receiptSeq

instance (frame : ContentFrame) (receipt : ConsentReceipt) : Decidable (Covers frame receipt) :=
  inferInstanceAs (Decidable (_ ∧ _))

/-- The first receipt that covers the frame retains it at its age. -/
def Retains (receipts : List ConsentReceipt) (nowTick : UInt64) (adaptHz : UInt16) (frame : ContentFrame) : Prop :=
  ∃ earlier receipt later, receipts = earlier ++ receipt :: later ∧ (∀ other ∈ earlier, ¬ Covers frame other) ∧
    Covers frame receipt ∧ elapsedMs nowTick frame.insertedTick adaptHz ≤ receipt.retainMs

def Held (frame : ContentFrame) (store : BoundedContentStore) : Prop := store.entries[frame.key]? = some frame

section Frame
variable {Cx : Type} (holds : Cx → CapabilityName → Prop) (externals : CameraExternals Cx) (frame : ContentFrame)

/-- An accepted capture of the frame, by a caller with the camera's consent for the session. -/
inductive Admits : GlassesEvent Cx → Prop where
  | captured {before after : BoundedContentStore} {cx : Cx} {receipt : ConsentReceipt} {session : EdgeId}
      {capture : Capture} {insertedTick : UInt64} {reference : XrCameraFrameRef} {evicted : List StoreEvicted}
      (consented : Consented holds cx "glasses/camera" receipt session)
      (own : frame = capture.frame externals receipt insertedTick)
      (named : frame.key.symbol = externals.refs.frameKey reference) :
      Admits ⟨before, .capture cx receipt session capture insertedTick, .captured (.ok (reference, evicted)), after⟩

/-- A capture spares what it does not report evicted, a sweep what its receipts retain. -/
def Spares (event : GlassesEvent Cx) : Prop :=
  match event.input, event.output with
  | .capture _ _ _ _ _, .captured (.ok (_, evicted)) => frame.key ∉ evicted.map StoreEvicted.key
  | .capture _ _ _ _ _, _ => True
  | .sweep receipts nowTick adaptHz, _ => Retains receipts nowTick adaptHz frame

end Frame

private theorem firstWindow_glasses (receipts : List ConsentReceipt) (frame : ContentFrame) :
    firstWindow (glassesRetentionWindows receipts) frame = (receipts.find? fun receipt => decide (Covers frame receipt)).map
      fun receipt => ⟨receipt.session.symbol, receipt.seq, receipt.retainMs⟩ := by
  rw [firstWindow, glassesRetentionWindows, List.find?_map, List.find?_filter]
  congr 2
  funext receipt
  apply decide_eq_decide.mpr
  simp only [List.any_eq_true, decide_eq_true_eq, Function.comp_apply, Covers]

private theorem retains_iff {receipts : List ConsentReceipt} {nowTick : UInt64} {adaptHz : UInt16} {frame : ContentFrame} :
    Retains receipts nowTick adaptHz frame ↔ expired nowTick adaptHz (glassesRetentionWindows receipts) frame = false := by
  rw [expired, firstWindow_glasses]
  constructor
  · intro retains
    obtain ⟨earlier, receipt, later, split, uncovered, covered, young⟩ := retains
    have found : receipts.find? (fun receipt => decide (Covers frame receipt)) = some receipt := by
      apply List.find?_eq_some_iff_append.mpr
      refine ⟨decide_eq_true covered, earlier, later, split, ?_⟩
      intro other member
      rw [decide_eq_false (uncovered other member)]
      rfl
    rw [found]
    exact decide_eq_false (UInt64.not_lt.mpr young)
  · intro alive
    cases found : receipts.find? fun receipt => decide (Covers frame receipt) with
    | none =>
      rw [found] at alive
      cases alive
    | some receipt =>
      rw [found] at alive
      obtain ⟨covered, earlier, later, split, uncovered⟩ := List.find?_eq_some_iff_append.mp found
      refine ⟨earlier, receipt, later, split, ?_, of_decide_eq_true covered, UInt64.not_lt.mp (of_decide_eq_false alive)⟩
      intro other member covering
      have passed := uncovered other member
      rw [decide_eq_true covering] at passed
      cases passed

section Steps
variable {Cx : Type} {holds : Cx → CapabilityName → Prop} {externals : CameraExternals Cx} {cx : Cx}
  {store : BoundedContentStore} {receipt : ConsentReceipt} {session : EdgeId}

/-- What is accepted is the store's own insertion. -/
theorem storeCameraFrame_ok {toRef : Except String XrCameraFrameRef} {frameKey : Symbol} {payload : Expr}
    {sizeBytes insertedTick : UInt64} {mismatch : String} {reference : XrCameraFrameRef} {evicted : List StoreEvicted}
    {after : BoundedContentStore}
    (stored : storeCameraFrame externals cx store receipt session toRef frameKey payload sizeBytes insertedTick mismatch =
      (.ok (reference, evicted), after)) :
    store.insert (glassesFrame externals.build .camera frameKey payload receipt insertedTick sizeBytes) =
      (.ok evicted, after) := by
  unfold storeCameraFrame storeGlassesFrame at stored
  split at stored
  · cases stored
  split at stored
  · cases stored
  generalize store.insert _ = inserted at stored ⊢
  obtain ⟨_ | accepted, next⟩ := inserted
  · cases stored
  · simp only [Prod.map, Except.map] at stored
    split at stored
    · cases stored
    · cases stored
      rfl

private theorem capture_ok {symbols : SampleSymbols} {capture : Capture} {insertedTick : UInt64} {reference : XrCameraFrameRef}
    {evicted : List StoreEvicted} {after : BoundedContentStore}
    (stored : capture.store externals symbols cx receipt session insertedTick store = (.ok (reference, evicted), after)) :
    store.insert (capture.frame externals receipt insertedTick) = (.ok evicted, after) := by
  cases capture <;> exact storeCameraFrame_ok stored

/-- A capture is refused and changes nothing, or inserts its frame under consent. -/
theorem capture_cases (lawful : Lawful holds externals) (symbols : SampleSymbols) (cx : Cx)
    (store : BoundedContentStore) (receipt : ConsentReceipt) (session : EdgeId) (capture : Capture)
    (insertedTick : UInt64) :
    (∃ error, capture.store externals symbols cx receipt session insertedTick store = (.error error, store)) ∨
    ∃ reference evicted after,
      capture.store externals symbols cx receipt session insertedTick store = (.ok (reference, evicted), after) ∧
      store.insert (capture.frame externals receipt insertedTick) = (.ok evicted, after) ∧
      Consented holds cx "glasses/camera" receipt session ∧
      (capture.frame externals receipt insertedTick).key.symbol = externals.refs.frameKey reference := by
  have stores : ∃ toRef, Stores holds externals cx store receipt session toRef
      (capture.frame externals receipt insertedTick)
      (capture.store externals symbols cx receipt session insertedTick store) := by
    cases capture with
    | halo pull => exact ⟨_, storeCameraFrame_stores lawful rfl pull.payload pull.sizeBytes insertedTick _⟩
    | viture frame => exact ⟨_, storeCameraFrame_stores lawful rfl frame.payload frame.sizeBytes insertedTick _⟩
  obtain ⟨toRef, stores⟩ := stores
  generalize outcome : capture.store externals symbols cx receipt session insertedTick store = result at stores
  cases stores with
  | unreferenced | unconsented | oversized => exact .inl ⟨_, rfl⟩
  | stored _ consented named => exact .inr ⟨_, _, _, rfl, capture_ok outcome, consented, named⟩

private theorem mem_evicted {frame : ContentFrame} {after : BoundedContentStore} {evicted : List StoreEvicted}
    {gone kept : List StoreKey} (evicts : EvictsOldest frame store after evicted gone kept) {key : StoreKey} :
    key ∈ evicted.map StoreEvicted.key ↔ (key = frame.key ∧ store.contains frame.key = true) ∨ key ∈ gone := by
  rw [evicts.reported, List.map_append, List.mem_append, List.map_map]
  apply or_congr
  · split <;> simp_all
  · rw [show StoreEvicted.key ∘ (fun key => ⟨key, sizeBoundReason⟩) = id from rfl, List.map_id]

/-- An insertion keeps the frames it does not report, and adds its own. -/
theorem inserted_iff (tidy : Tidy store) {new frame : ContentFrame} {evicted : List StoreEvicted}
    {after : BoundedContentStore} (inserted : store.insert new = (.ok evicted, after)) :
    Held frame after ↔ frame = new ∨ Held frame store ∧ frame.key ∉ evicted.map StoreEvicted.key := by
  have small : ¬ store.maxBytes < new.sizeBytes := by
    intro large
    rw [insert_rejects large] at inserted
    cases inserted
  obtain ⟨⟨reported, gone, kept, answered, evicts⟩, _⟩ := insert_evicts tidy small
  rw [inserted] at answered evicts
  cases answered
  rw [Held, Held, evicts.entries, mem_evicted evicts]
  by_cases same : frame.key = new.key
  · rw [if_pos same]
    constructor
    · intro held
      exact .inl (Option.some.inj held).symm
    · intro either
      obtain own | ⟨held, spared⟩ := either
      · rw [own]
      · have replaced : store.contains new.key = true := by
          rw [contains, ExtTreeMap.contains_eq_isSome_getElem?, ← same, held]
          rfl
        exact absurd (.inl ⟨same, replaced⟩) spared
  · have other : frame ≠ new := by
      intro own
      exact same (congrArg ContentFrame.key own)
    rw [if_neg same, or_iff_right other]
    by_cases early : frame.key ∈ gone
    · rw [if_pos early]
      apply iff_of_false
      · intro none
        cases none
      · intro both
        exact both.2 (.inr early)
    · rw [if_neg early]
      simp only [same, early, false_and, or_false, not_false_eq_true, and_true]

/-- A sweep keeps what its receipts retain. -/
theorem swept_iff {receipts : List ConsentReceipt} {nowTick : UInt64} {adaptHz : UInt16} {frame : ContentFrame} :
    Held frame (sweepGlassesRetention store receipts nowTick adaptHz).2 ↔
      Held frame store ∧ Retains receipts nowTick adaptHz frame := by
  rw [Held, sweepGlassesRetention, (sweep_removes nowTick adaptHz _ store).entries, retains_iff]
  constructor
  · intro held
    split at held
    · cases held
    · rename_i unlisted
      refine ⟨held, Bool.eq_false_iff.mpr ?_⟩
      intro gone
      exact unlisted ((mem_expiredKeys nowTick adaptHz _).mpr ⟨frame, held, gone⟩)
  · intro both
    obtain ⟨held, alive⟩ := both
    rw [if_neg, held]
    intro listed
    obtain ⟨other, again, gone⟩ := (mem_expiredKeys nowTick adaptHz _).mp listed
    obtain rfl := Option.some.inj (held.symm.trans again)
    cases alive.symm.trans gone

end Steps

section Runs
variable {Cx : Type} {holds : Cx → CapabilityName → Prop} {externals : CameraExternals Cx} {symbols : SampleSymbols}

private theorem step_keeps_tidy (lawful : Lawful holds externals) (store : BoundedContentStore) (call : GlassesCall Cx)
    (tidy : Tidy store) : Tidy ((machine externals symbols).step store call).2 := by
  cases call with
  | sweep receipts nowTick adaptHz =>
    exact step_tidy store (.sweepRetention nowTick adaptHz (glassesRetentionWindows receipts)) tidy
  | capture cx receipt session capture insertedTick =>
    simp only [machine]
    obtain ⟨error, refused⟩ | ⟨reference, evicted, after, accepted, inserted, _⟩ :=
      capture_cases lawful symbols cx store receipt session capture insertedTick
    · rwa [refused]
    · rw [accepted]
      have stepped := step_tidy store (.insert (capture.frame externals receipt insertedTick)) tidy
      rwa [show BoundedContentStore.machine.step store _ = (store.insert _).map .inserted id from rfl, inserted] at stepped

/-- One call decides which frames are held from its own event. -/
theorem step_holds (lawful : Lawful holds externals) (frame : ContentFrame) (store : BoundedContentStore)
    (call : GlassesCall Cx) (tidy : Tidy store) :
    Held frame ((machine externals symbols).step store call).2 ↔
      Admits holds externals frame ((machine externals symbols).event store call) ∨
        Held frame store ∧ Spares frame ((machine externals symbols).event store call) := by
  cases call with
  | sweep receipts nowTick adaptHz =>
    have swept : ¬ Admits holds externals frame ((machine externals symbols).event store
        (.sweep receipts nowTick adaptHz)) := by
      intro admits
      cases admits
    rw [or_iff_right swept]
    exact swept_iff
  | capture cx receipt session capture insertedTick =>
    obtain ⟨error, refused⟩ | ⟨reference, evicted, after, accepted, inserted, consented, named⟩ :=
      capture_cases lawful symbols cx store receipt session capture insertedTick
    · have event : (machine externals symbols).event store (.capture cx receipt session capture insertedTick) =
          ⟨store, .capture cx receipt session capture insertedTick, .captured (.error error), store⟩ := by
        simp only [Machine.event, machine, refused, Prod.map, id_eq]
      have after : ((machine externals symbols).step store (.capture cx receipt session capture insertedTick)).2 = store :=
        congrArg Machine.Event.after event
      have rejected : ¬ Admits holds externals frame ⟨store, .capture cx receipt session capture insertedTick,
          .captured (.error error), store⟩ := by
        intro admits
        cases admits
      rw [event, after, or_iff_right rejected]
      exact (and_iff_left trivial).symm
    · have event : (machine externals symbols).event store (.capture cx receipt session capture insertedTick) =
          ⟨store, .capture cx receipt session capture insertedTick, .captured (.ok (reference, evicted)), after⟩ := by
        simp only [Machine.event, machine, accepted, Prod.map, id_eq]
      have reached : ((machine externals symbols).step store (.capture cx receipt session capture insertedTick)).2 = after :=
        congrArg Machine.Event.after event
      rw [event, reached, inserted_iff tidy inserted]
      apply or_congr_left
      constructor
      · intro own
        exact .captured consented own (own ▸ named)
      · intro admits
        cases admits with
        | captured _ own _ => exact own

/-- After any run from a new store, the frames it holds are those some capture has stored
under the camera's consent, reported evicted by no call since, and covered, young enough,
by the receipts of every sweep since. -/
theorem held_frames_consented (lawful : Lawful holds externals) {maxBytes : UInt64} {store : BoundedContentStore}
    (created : new maxBytes = .ok store) (calls : List (GlassesCall Cx)) (frame : ContentFrame) :
    Held frame ((machine externals symbols).final store calls) ↔
      Machine.Since (Admits holds externals frame) (Spares frame) ((machine externals symbols).trace store calls) := by
  have started : Tidy store := ⟨(new_sound created).1.inOrder, fun _ => (new_sound created).1.exact⟩
  apply Machine.since_iff _ (step_keeps_tidy lawful) (step_holds lawful frame) started
  intro held
  unfold BoundedContentStore.new at created
  split at created
  · cases created
  · cases created
    cases held.symm.trans ExtTreeMap.getElem?_empty

end Runs

theorem pulled_frame_consented :
    let calls : List (GlassesCall (List CapabilityName)) :=
      [.capture [.new "glasses/camera"] cameraReceipt ⟨.new "edge"⟩ (.halo onePull) 5, .sweep [cameraReceipt] 6 1]
    let frame := (Capture.halo onePull).frame plainCamera cameraReceipt 5
    Held frame ((machine plainCamera plainSymbols).final (.emptyStore 10) calls) ↔
      Machine.Since (Admits (fun cx capability => capability ∈ cx) plainCamera frame) (Spares frame)
        ((machine plainCamera plainSymbols).trace (.emptyStore 10) calls) :=
  held_frames_consented plainCamera_lawful (new_emptyStore (by decide)) _ _

end StreamHost.Proofs.ConsentedStore
