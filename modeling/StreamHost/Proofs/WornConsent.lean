import StreamHost.Proofs.FieldNames
import StreamHost.Proofs.WornEventWire
import StreamHost.Watch

/-! The consent gate and the decoder of worn events look up the same fields, but not alike:
the decoder takes a name under either spelling and the gate under a bare symbol only. They
agree on maps in which no string spells the sample or the sensor, and so on every encoded
event. An event whose sensor is spelled both ways can be decoded as one sensor and ingested
under the consent of another. -/

namespace StreamHost.Proofs.WornConsent
open Wristbridge WornEventWire

/-- An event is ingested with the authority of its class, a receipt of the same session
and a visible grant that prints as the class. -/
theorem ingest_iff {access : Access} {expr : Expr} {required : WatchCapability}
    (classified : watchCapabilityForWornEvent access expr = .ok required) {Cx : Type}
    {require : CapabilityName → Cx → Result Unit} {cx : Cx} {grants : List Symbol} {receiptSession session : Symbol}
    {capability : WatchCapability} :
    requireWatchWornIngest require access cx expr grants receiptSession session = .ok capability ↔
      capability = required ∧ require required.capabilityName cx = .ok () ∧ receiptSession = session ∧
        ∃ grant ∈ grants, grant.asQualifiedStr = required.asStr := by
  rw [requireWatchWornIngest, classified]
  simp only [Except.bind_eq_ok, Except.ok.injEq, exists_eq_left', requireWatchConsent, Except.rejectIf_eq_ok, not_not, pure,
    Except.pure, List.any_eq_true, decide_eq_true_eq]
  constructor
  · intro passed
    obtain ⟨_, ⟨_, authority, _, same, granted⟩, classed⟩ := passed
    exact ⟨classed.symm, authority, same, granted⟩
  · intro allowed
    obtain ⟨classed, authority, same, granted⟩ := allowed
    exact ⟨(), ⟨(), authority, (), same, granted⟩, classed.symm⟩

/-- Ingestion asks for the authority of the sensor's class, a receipt of the same session
and a visible grant that prints as the class, and for nothing else. -/
def IngestedAs (access : Access) (expr : Expr) (sensor : Symbol) : Prop :=
  ∀ (Cx : Type) (require : CapabilityName → Cx → Result Unit) (cx : Cx) (grants : List Symbol)
    (receiptSession session : Symbol) (capability : WatchCapability),
    requireWatchWornIngest require access cx expr grants receiptSession session = .ok capability ↔
      capability = .forSensor sensor.name ∧ require capability.capabilityName cx = .ok () ∧ receiptSession = session ∧
        ∃ grant ∈ grants, grant.asQualifiedStr = capability.asStr

private theorem ingestedAs_iff {access : Access} {expr : Expr} {sensor : Symbol} :
    IngestedAs access expr sensor ↔ watchCapabilityForWornEvent access expr = .ok (.forSensor sensor.name) := by
  constructor
  · intro ingested
    -- a context with every authority, and the one grant that the class needs
    have passed := (ingested Unit (fun _ _ => .ok ()) () [(WatchCapability.forSensor sensor.name).grantSymbol] (.new "s")
      (.new "s") (.forSensor sensor.name)).mpr
        ⟨rfl, rfl, rfl, _, List.mem_singleton_self _, WatchCapability.grantSymbol_asQualifiedStr _⟩
    rw [requireWatchWornIngest, Except.bind_eq_ok] at passed
    obtain ⟨found, classified, rest⟩ := passed
    obtain ⟨_, _, same⟩ := Except.bind_eq_ok.mp rest
    rw [classified, Except.ok.inj same]
  · intro classified Cx require cx grants receiptSession session capability
    rw [ingest_iff classified]
    constructor
    all_goals
      rintro ⟨rfl, consented⟩
      exact ⟨rfl, consented⟩

section Readers
variable {access : Access} {entries : List (Expr × Expr)}

def Sampled (read : String → Option Expr) : Prop :=
  read "sample" = some (.symbol (.qualified "stream/device-sample" wornEventSampleKind))

def Sensed (read : String → Option Expr) (sensor : Symbol) : Prop :=
  read "sensor" = some (.symbol sensor) ∧ sensor.ns = some "stream/worn-sensor"

private theorem requiredSymbolField_ok (reads : access.ReadsSymbols) {name : String} {symbol : Symbol} :
    requiredSymbolField access (.map entries) name = .ok symbol ↔ symbolField entries name = some (.symbol symbol) := by
  rw [requiredSymbolField, reads.field]
  cases symbolField entries name with
  | none => simp
  | some expr => cases expr <;> simp

/-- The classifier reads the sample and the sensor under bare symbols. -/
theorem classified_iff (reads : access.ReadsSymbols) {capability : WatchCapability} :
    watchCapabilityForWornEvent access (.map entries) = .ok capability ↔ Sampled (symbolField entries) ∧
      ∃ sensor, Sensed (symbolField entries) sensor ∧ capability = .forSensor sensor.name := by
  simp only [watchCapabilityForWornEvent, ensureWornEventSample, Except.bind_eq_ok, Except.rejectIf_eq_ok, not_not,
    exists_const, requiredSymbolField_ok reads, pure, Except.pure, Except.ok.injEq]
  constructor
  · intro passed
    obtain ⟨⟨sample, found, rfl⟩, sensor, sensed, placed, rfl⟩ := passed
    exact ⟨found, sensor, ⟨sensed, placed⟩, rfl⟩
  · intro read
    obtain ⟨found, sensor, ⟨sensed, placed⟩, rfl⟩ := read
    exact ⟨⟨_, found, rfl⟩, sensor, sensed, placed, rfl⟩

/-- The decoder reads the sample, the sensor and two fields more, each under either spelling. -/
theorem decoded_iff (requires : access.Requires) {event : WornEvent} :
    WornEvent.fromExpr access (.map entries) = .ok event ↔
      Sampled (firstField entries) ∧ Sensed (firstField entries) event.sensor ∧
        firstField entries "value" = some event.value ∧ (firstField entries "seq").bind Expr.asU64 = some event.seq := by
  have number {seq : UInt64} : requiredU64 access (.map entries) "seq" "worn event" = .ok seq ↔
      (firstField entries "seq").bind Expr.asU64 = some seq := by
    rw [requiredU64, Access.requiredU64, Except.bind_eq_ok, Option.bind_eq_some_iff]
    simp only [Access.mapError, Except.mapError_eq_ok, requires.required, Expr.map.injEq, exists_eq_left']
    refine exists_congr fun expr => and_congr_right fun _ => ?_
    cases expr.asU64 <;> simp [pure, Except.pure]
  have made {seq : UInt64} {sensor : Symbol} {value : Expr} : WornEvent.new seq sensor value = .ok event ↔
      sensor.ns = some "stream/worn-sensor" ∧ event.seq = seq ∧ event.sensor = sensor ∧ event.value = value := by
    unfold WornEvent.new
    split
    · rename_i worn
      obtain ⟨ownSeq, ownSensor, ownValue, _⟩ := event
      simp [worn, eq_comm]
    · rename_i other
      simp [other]
  simp only [WornEvent.fromExpr, WornEvent.ensureSample, Except.bind_eq_ok, Except.rejectIf_eq_ok, not_not, exists_const,
    mapDeviceError, Access.mapError, Except.mapError_eq_ok, requires.requiredSym, requires.required, Expr.map.injEq,
    exists_eq_left', number, made]
  constructor
  · intro read
    obtain ⟨⟨sample, found, rfl⟩, seq, numbered, sensor, sensed, value, valued, placed, rfl, rfl, rfl⟩ := read
    exact ⟨found, ⟨sensed, placed⟩, valued, numbered⟩
  · intro read
    obtain ⟨found, ⟨sensed, placed⟩, valued, numbered⟩ := read
    exact ⟨⟨_, found, rfl⟩, _, numbered, _, sensed, _, valued, placed, rfl, rfl, rfl⟩

private theorem decoded_map (requires : access.Requires) {expr : Expr} {event : WornEvent}
    (decoded : WornEvent.fromExpr access expr = .ok event) : ∃ entries, expr = .map entries := by
  rw [WornEvent.fromExpr, Except.bind_eq_ok] at decoded
  obtain ⟨_, checked, _⟩ := decoded
  rw [WornEvent.ensureSample, Except.bind_eq_ok] at checked
  obtain ⟨sample, found, _⟩ := checked
  rw [mapDeviceError, Access.mapError, Except.mapError_eq_ok, requires.requiredSym] at found
  obtain ⟨entries, same, _⟩ := found
  exact ⟨entries, same⟩

/-- No string spells the sample or the sensor: the gate and the decoder read them alike. -/
structure ReadAlike (entries : List (Expr × Expr)) : Prop where
  sample : SymbolKeyed entries "sample"
  sensor : SymbolKeyed entries "sensor"

theorem ReadAlike.sampled (alike : ReadAlike entries) : Sampled (symbolField entries) ↔ Sampled (firstField entries) := by
  rw [Sampled, symbolField_eq_firstField alike.sample, Sampled]

private theorem ReadAlike.sensed (alike : ReadAlike entries) {sensor : Symbol} :
    Sensed (symbolField entries) sensor ↔ Sensed (firstField entries) sensor := by
  rw [Sensed, symbolField_eq_firstField alike.sensor, Sensed]

/-- Such a map is decoded exactly when it is classified and carries a value and a number. -/
theorem ReadAlike.decodable_iff (alike : ReadAlike entries) (reads : access.ReadsSymbols) (requires : access.Requires) :
    (∃ event, WornEvent.fromExpr access (.map entries) = .ok event) ↔
      (∃ capability, watchCapabilityForWornEvent access (.map entries) = .ok capability) ∧
        (∃ value, firstField entries "value" = some value) ∧
          ∃ seq, (firstField entries "seq").bind Expr.asU64 = some seq := by
  constructor
  · intro read
    obtain ⟨event, decoded⟩ := read
    obtain ⟨sampled, sensed, valued, numbered⟩ := (decoded_iff requires).mp decoded
    have classified := (classified_iff reads).mpr ⟨alike.sampled.mpr sampled, event.sensor, alike.sensed.mpr sensed, rfl⟩
    exact ⟨⟨_, classified⟩, ⟨_, valued⟩, _, numbered⟩
  · intro present
    obtain ⟨⟨capability, classified⟩, ⟨value, valued⟩, seq, numbered⟩ := present
    obtain ⟨sampled, sensor, sensed, _⟩ := (classified_iff reads).mp classified
    have placed := alike.sensed.mp sensed
    exact ⟨⟨seq, sensor, value, sensed.2⟩, (decoded_iff requires).mpr ⟨alike.sampled.mp sampled, placed, valued, numbered⟩⟩

/-- The sensor spelled both ways, location first and the battery under the bare symbol. -/
def twoSensors : List (Expr × Expr) :=
  [(.symbol (.new "sample"), .symbol (.qualified "stream/device-sample" wornEventSampleKind)),
    (.string "sensor", .symbol (.qualified "stream/worn-sensor" "gps")),
    (.symbol (.new "sensor"), .symbol (.qualified "stream/worn-sensor" "battery")),
    (.symbol (.new "seq"), .number ⟨.new "u64", "1"⟩),
    (.symbol (.new "value"), .nil)]

def gpsEvent : WornEvent := ⟨1, .qualified "stream/worn-sensor" "gps", .nil, rfl⟩

private theorem twoSensors_decoded (requires : access.Requires) :
    WornEvent.fromExpr access (.map twoSensors) = .ok gpsEvent :=
  (decoded_iff requires).mpr ⟨rfl, ⟨rfl, rfl⟩, rfl, by decide⟩

private theorem twoSensors_classified (reads : access.ReadsSymbols) :
    watchCapabilityForWornEvent access (.map twoSensors) = .ok .health :=
  (classified_iff reads).mpr ⟨rfl, .qualified "stream/worn-sensor" "battery", ⟨rfl, rfl⟩, rfl⟩

end Readers

/-- A decoded event is ingested as its sensor exactly when the sample is found under a bare
symbol and the first sensor under a bare symbol is of the same class. So it is when no string
spells either, and so is every event under its own encoding; otherwise a location can be
decoded from what is ingested as health data. No worn event asks for the consent to vendor reports. -/
theorem ingested_as_decoded_iff {access : Access} {build : Build} (reads : access.ReadsSymbols)
    (requires : access.Requires) (writes : Writes build) :
    (∀ expr event, WornEvent.fromExpr access expr = .ok event → ∃ entries, expr = .map entries ∧
      (IngestedAs access expr event.sensor ↔ Sampled (symbolField entries) ∧ ∃ sensor, Sensed (symbolField entries) sensor ∧
        WatchCapability.forSensor event.sensor.name = .forSensor sensor.name)) ∧
    (∀ entries, ReadAlike entries →
      (∀ event, WornEvent.fromExpr access (.map entries) = .ok event → IngestedAs access (.map entries) event.sensor) ∧
      ((∃ event, WornEvent.fromExpr access (.map entries) = .ok event) ↔
        (∃ capability, watchCapabilityForWornEvent access (.map entries) = .ok capability) ∧
          (∃ value, firstField entries "value" = some value) ∧
            ∃ seq, (firstField entries "seq").bind Expr.asU64 = some seq)) ∧
    (∀ event : WornEvent, IngestedAs access (event.toExpr build) event.sensor) ∧
    (∀ entries, watchCapabilityForWornEvent access (.map entries) ≠ .ok .vendorReport) ∧
    ∃ expr event, WornEvent.fromExpr access expr = .ok event ∧ WatchCapability.forSensor event.sensor.name = .location ∧
      watchCapabilityForWornEvent access expr = .ok .health := by
  refine ⟨?_, ?_, ?_, ?_, ?_⟩
  · intro expr event decoded
    obtain ⟨entries, rfl⟩ := decoded_map requires decoded
    refine ⟨entries, rfl, ?_⟩
    rw [ingestedAs_iff, classified_iff reads]
  · intro entries alike
    refine ⟨?_, alike.decodable_iff reads requires⟩
    intro event decoded
    obtain ⟨sampled, sensed, _⟩ := (decoded_iff requires).mp decoded
    apply ingestedAs_iff.mpr
    exact (classified_iff reads).mpr ⟨alike.sampled.mpr sampled, event.sensor, alike.sensed.mpr sensed, rfl⟩
  · intro event
    rw [ingestedAs_iff, toExpr_eq writes]
    exact (classified_iff reads).mpr ⟨rfl, event.sensor, ⟨rfl, event.worn⟩, rfl⟩
  · intro entries classified
    obtain ⟨_, sensor, _, named⟩ := (classified_iff reads).mp classified
    unfold WatchCapability.forSensor at named
    split at named <;> cases named
  · exact ⟨.map twoSensors, gpsEvent, twoSensors_decoded requires, rfl, twoSensors_classified reads⟩

theorem two_sensors_read_apart :
    WornEvent.fromExpr plainAccess (.map twoSensors) = .ok gpsEvent ∧
      ¬ IngestedAs plainAccess (.map twoSensors) gpsEvent.sensor := by
  have decoded : WornEvent.fromExpr plainAccess (.map twoSensors) = .ok gpsEvent := rfl
  obtain ⟨entries, same, agree⟩ :=
    (ingested_as_decoded_iff plainAccess_reads plainAccess_lawful plainBuild_writes).1 _ _ decoded
  cases same
  refine ⟨decoded, fun ingested => ?_⟩
  obtain ⟨_, sensor, ⟨found, _⟩, classed⟩ := agree.mp ingested
  cases found
  exact absurd classed (by decide)

end StreamHost.Proofs.WornConsent
