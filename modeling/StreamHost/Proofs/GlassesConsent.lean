import StreamHost.Glasses

/-! Which consent an ingested glasses sample is checked under. A sample that
carries a `world-anchor` field is checked as a world anchor whatever it is. Both
fields are looked up under bare symbols, so that a string key hides neither. -/

namespace StreamHost.Proofs.GlassesConsent

/-- Kernel authority, visible consent and the receipt's session. -/
structure Consented {Cx : Type} (holds : Cx → CapabilityName → Prop) (cx : Cx) (name : String)
    (receipt : ConsentReceipt) (session : EdgeId) : Prop where
  authority : holds cx (.new name)
  granted : ∃ grant ∈ receipt.grants, grant.asQualifiedStr = name
  sameSession : receipt.session = session

def sampleSymbols : GlassesCapability → List Symbol
  | .pose => [.qualified "xr" "pose", .qualified "stream/device-sample" "xr/pose"]
  | .camera => [.qualified "xr" "camera-frame", .qualified "stream/device-sample" "xr/camera-frame"]
  | .hand => [.qualified "xr" "hand", .qualified "stream/device-sample" "xr/hand"]
  | .mic => [.qualified "xr" "mic-chunk", .qualified "stream/device-sample" "xr/mic-chunk"]
  | .worldAnchor | .vendorReport => []

section Classify
variable {access : Access} (reads : access.ReadsSymbols) {entries : List (Expr × Expr)}
include reads

private theorem anchored_class {anchor : Expr} (found : symbolField entries "world-anchor" = some anchor) :
    glassesCapabilityForSample access (.map entries) = .ok .worldAnchor := by
  rw [glassesCapabilityForSample, reads.field, found]
  rfl

theorem sample_class (plain : symbolField entries "world-anchor" = none) {symbol : Symbol}
    (named : symbolField entries "sample" = some (.symbol symbol)) {sampleClass : GlassesCapability}
    (member : symbol ∈ sampleSymbols sampleClass) :
    glassesCapabilityForSample access (.map entries) = .ok sampleClass := by
  rw [glassesCapabilityForSample, reads.field, plain, reads.fieldSym, named]
  cases sampleClass with
  | worldAnchor | vendorReport => cases member
  | pose | camera | hand | mic =>
    rcases List.mem_pair.mp member with rfl | rfl <;> rfl

end Classify

section Ingest
variable {Cx : Type} {gate : Cx → String → ConsentReceipt → EdgeId → Result Unit} {access : Access}
  {cx : Cx} {receipt : ConsentReceipt} {session : EdgeId}

theorem ingest_ok {sample : Expr} {capability required : GlassesCapability}
    (classified : glassesCapabilityForSample access sample = .ok required) :
    requireGlassesSampleIngest gate access cx sample receipt session = .ok capability ↔
      gate cx required.asStr receipt session = .ok () ∧ required = capability := by
  rw [requireGlassesSampleIngest, classified]
  simp only [Except.bind_eq_ok, requireGlassesConsent, Except.ok.injEq, exists_eq_left', pure, Except.pure]
  exact ⟨fun ⟨(), passed⟩ => passed, fun passed => ⟨(), passed⟩⟩

def IngestsAs (holds : Cx → CapabilityName → Prop) (gate : Cx → String → ConsentReceipt → EdgeId → Result Unit)
    (access : Access) (cx : Cx) (sample : Expr) (receipt : ConsentReceipt) (session : EdgeId)
    (sampleClass : GlassesCapability) : Prop :=
  ∀ capability, requireGlassesSampleIngest gate access cx sample receipt session = .ok capability →
    capability = sampleClass ∧ Consented holds cx sampleClass.asStr receipt session

/-- A sample is ingested as its class exactly when no `world-anchor` field under a bare
symbol is there to classify it, or the world-anchor consent it then needs is not given. -/
theorem ingests_as_class_iff {holds : Cx → CapabilityName → Prop} (reads : access.ReadsSymbols)
    (sound : ∀ cx name receipt session, gate cx name receipt session = .ok () → Consented holds cx name receipt session)
    {entries : List (Expr × Expr)} {symbol : Symbol} {sampleClass : GlassesCapability}
    (named : symbolField entries "sample" = some (.symbol symbol)) (member : symbol ∈ sampleSymbols sampleClass) :
    IngestsAs holds gate access cx (.map entries) receipt session sampleClass ↔
      symbolField entries "world-anchor" = none ∨ gate cx "glasses/world-anchor" receipt session ≠ .ok () := by
  cases anchor : symbolField entries "world-anchor" with
  | none =>
    refine iff_of_true (fun capability ingested => ?_) (.inl rfl)
    obtain ⟨passed, rfl⟩ := (ingest_ok (sample_class reads anchor named member)).mp ingested
    exact ⟨rfl, sound _ _ _ _ passed⟩
  | some value =>
    have classified := anchored_class reads anchor
    rw [or_iff_right (by exact nofun)]
    constructor
    · intro ingests passed
      have ingested := (ingest_ok classified).mpr ⟨passed, rfl⟩
      have same := (ingests .worldAnchor ingested).1
      rw [← same] at member
      cases member
    · intro denied capability ingested
      exact absurd ((ingest_ok classified).mp ingested).1 denied

end Ingest

/-- A context that is the list of its capabilities, checked as documented. -/
def plainGate (cx : List CapabilityName) (name : String) (receipt : ConsentReceipt) (session : EdgeId) :
    Result Unit := do
  .rejectIf (CapabilityName.new name ∉ cx) (.capabilityDenied (.new name))
  .rejectIf (∀ grant ∈ receipt.grants, grant.asQualifiedStr ≠ name) (.hostError s!"visible consent missing for {name}")
  .rejectIf (receipt.session ≠ session) (.hostError "consent receipt is not for this session")

theorem plainGate_sound (cx : List CapabilityName) (name : String) (receipt : ConsentReceipt) (session : EdgeId)
    (passed : plainGate cx name receipt session = .ok ()) :
    Consented (fun cx capability => capability ∈ cx) cx name receipt session := by
  simp only [plainGate, Except.bind_eq_ok, Except.rejectIf_eq_ok, exists_const] at passed
  obtain ⟨authority, granted, sameSession⟩ := passed
  rw [not_forall] at granted
  obtain ⟨grant, named⟩ := granted
  rw [Classical.not_imp, not_not] at named
  exact ⟨not_not.mp authority, ⟨grant, named⟩, not_not.mp sameSession⟩

def cameraEntries : List (Expr × Expr) :=
  [(.symbol (.new "sample"), .symbol (.qualified "stream/device-sample" "xr/camera-frame"))]

def anchorReceipt : ConsentReceipt := ⟨[.qualified "glasses" "world-anchor"], 1000, ⟨.new "edge"⟩, 1⟩

theorem plain_camera_sample_ingests_iff :
    IngestsAs (fun cx capability => capability ∈ cx) plainGate plainAccess [.new "glasses/camera"]
        (.map cameraEntries) anchorReceipt ⟨.new "edge"⟩ .camera ↔
      symbolField cameraEntries "world-anchor" = none ∨
        plainGate [.new "glasses/camera"] "glasses/world-anchor" anchorReceipt ⟨.new "edge"⟩ ≠ .ok () :=
  ingests_as_class_iff plainAccess_reads plainGate_sound rfl (List.mem_cons_of_mem _ List.mem_cons_self)

/-- A camera frame with a `world-anchor` field passes with no camera consent at all. -/
theorem anchored_camera_sample_escapes :
    ¬ ∀ (Cx : Type) (holds : Cx → CapabilityName → Prop) (gate : Cx → String → ConsentReceipt → EdgeId → Result Unit)
      (access : Access) (cx : Cx) (entries : List (Expr × Expr)) (receipt : ConsentReceipt) (session : EdgeId)
      (symbol : Symbol) (sampleClass : GlassesCapability), access.ReadsSymbols →
      (∀ cx name receipt session, gate cx name receipt session = .ok () → Consented holds cx name receipt session) →
      symbolField entries "sample" = some (.symbol symbol) → symbol ∈ sampleSymbols sampleClass →
      IngestsAs holds gate access cx (.map entries) receipt session sampleClass := by
  intro always
  have ingests := always (List CapabilityName) (fun cx capability => capability ∈ cx) plainGate plainAccess
    [.new "glasses/world-anchor"]
    ((.symbol (.new "world-anchor"), .bool true) :: cameraEntries)
    anchorReceipt ⟨.new "edge"⟩ (.qualified "stream/device-sample" "xr/camera-frame") .camera
    plainAccess_reads plainGate_sound rfl (by decide)
  exact absurd (ingests .worldAnchor (by decide)).1 (by decide)

end StreamHost.Proofs.GlassesConsent
