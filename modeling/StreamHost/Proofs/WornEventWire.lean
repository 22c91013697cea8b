import StreamHost.Wristbridge.Event

/-! Which worn events survive their own encoding. Sequence numbers are written as
unsigned 64-bit numbers and read back as signed ones. -/

namespace StreamHost.Proofs.WornEventWire
open Wristbridge

/-- Maps keep their fields under bare symbol keys, and numbers are decimal numerals. -/
structure Writes (build : Build) : Prop where
  map : ∀ fields, build.map fields = .map (fields.map fun field => (.symbol (.new field.1), field.2))
  uint : ∀ value, ∃ domain : Symbol, (domain.name = "i64" ∨ domain.name = "u64") ∧
    build.uint value = .number ⟨domain, toString value.toNat⟩
  qsym : ∀ ns name, build.qsym ns name = .symbol (.qualified ns name)

/-- Required fields are read from the first entry of their name. -/
structure RequiresFirst (access : Access) : Prop where
  required : ∀ {entries name value}, firstField entries name = some value → ∀ context,
    access.required (.map entries) name context = .ok value
  requiredSym : ∀ {entries name symbol}, firstField entries name = some (.symbol symbol) → ∀ context,
    access.requiredSym (.map entries) name context = .ok symbol

def wornEntries (build : Build) (event : WornEvent) : List (Expr × Expr) :=
  [(.symbol (.new "kind"), .symbol (.qualified "stream/device-sample" "record")),
    (.symbol (.new "sample"), .symbol (.qualified "stream/device-sample" wornEventSampleKind)),
    (.symbol (.new "seq"), build.uint event.seq),
    (.symbol (.new "sensor"), .symbol event.sensor),
    (.symbol (.new "value"), event.value)]

variable {access : Access} {build : Build}

theorem toExpr_eq (writes : Writes build) (event : WornEvent) :
    event.toExpr build = .map (wornEntries build event) := by
  rw [WornEvent.toExpr, writes.map, writes.qsym, writes.qsym]
  rfl

theorem asU64_uint (writes : Writes build) (value : UInt64) :
    (build.uint value).asU64 = if value.toNat < 2 ^ 63 then some value else none := by
  obtain ⟨domain, known, written⟩ := writes.uint value
  rw [written, Expr.asU64]
  simp only [if_pos known, Decimal.parseI64_toString]
  split
  · simp
  · rfl

private theorem new_own (event : WornEvent) : WornEvent.new event.seq event.sensor event.value = .ok event :=
  dif_pos event.worn

private theorem requiredU64_written (writes : Writes build) (requires : RequiresFirst access) (event : WornEvent) :
    Wristbridge.requiredU64 access (.map (wornEntries build event)) "seq" "worn event" =
      if event.seq.toNat < 2 ^ 63 then .ok event.seq else .error (.sample "worn event field seq is not u64") := by
  have found : access.required (.map (wornEntries build event)) "seq" "worn event" = .ok (build.uint event.seq) :=
    requires.required rfl _
  rw [Wristbridge.requiredU64, Access.requiredU64, found]
  simp only [Access.mapError, Except.mapError, bind, Except.bind, asU64_uint writes]
  by_cases small : event.seq.toNat < 2 ^ 63
  · rw [if_pos small, if_pos small]
    rfl
  · rw [if_neg small, if_neg small]
    rfl

/-- What the decoder makes of an encoded event. -/
theorem fromExpr_toExpr (writes : Writes build) (requires : RequiresFirst access) (event : WornEvent) :
    WornEvent.fromExpr access (event.toExpr build) =
      if event.seq.toNat < 2 ^ 63 then .ok event else .error (.sample "worn event field seq is not u64") := by
  have sample : access.requiredSym (.map (wornEntries build event)) "sample" "worn event" =
      .ok (.qualified "stream/device-sample" wornEventSampleKind) := requires.requiredSym rfl _
  have sensor : access.requiredSym (.map (wornEntries build event)) "sensor" "worn event" = .ok event.sensor :=
    requires.requiredSym rfl _
  have value : access.required (.map (wornEntries build event)) "value" "worn event" = .ok event.value :=
    requires.required rfl _
  have checked : WornEvent.ensureSample access (.map (wornEntries build event)) = .ok () := by
    rw [WornEvent.ensureSample, mapDeviceError, sample]
    rfl
  rw [toExpr_eq writes, WornEvent.fromExpr, checked, requiredU64_written writes requires, mapDeviceError, mapDeviceError,
    sensor, value]
  split
  · exact new_own event
  · rfl

/-- An event is read back from its encoding exactly when its number is below 2^63. -/
theorem fromExpr_toExpr_iff (writes : Writes build) (requires : RequiresFirst access) (event : WornEvent) :
    WornEvent.fromExpr access (event.toExpr build) = .ok event ↔ event.seq.toNat < 2 ^ 63 := by
  rw [fromExpr_toExpr writes requires]
  split
  · rename_i small; exact iff_of_true rfl small
  · rename_i large; exact iff_of_false nofun large

theorem plainBuild_writes : Writes plainBuild := ⟨fun _ => rfl, fun _ => ⟨_, .inr rfl, rfl⟩, fun _ _ => rfl⟩

theorem plainAccess_requires : RequiresFirst plainAccess where
  required found _ := by simp only [plainAccess, requiredAs, found, Option.bind_some, Option.elim_some]
  requiredSym found _ := by simp only [plainAccess, requiredAs, found, Option.bind_some, Expr.asSymbol, Option.elim_some]

def heartRate (seq : UInt64) : WornEvent := ⟨seq, .qualified "stream/worn-sensor" "heart-rate", .string "72 bpm", rfl⟩

theorem fromExpr_toExpr_iff_first :
    WornEvent.fromExpr plainAccess ((heartRate 1).toExpr plainBuild) = .ok (heartRate 1) ↔
      (heartRate 1).seq.toNat < 2 ^ 63 :=
  fromExpr_toExpr_iff plainBuild_writes plainAccess_requires (heartRate 1)

/-- The first number past the signed range is written but not read. -/
theorem large_sequence_is_not_read_back :
    ¬ ∀ (access : Access) (build : Build) (event : WornEvent), Writes build → RequiresFirst access →
      WornEvent.fromExpr access (event.toExpr build) = .ok event := by
  intro always
  have read := always plainAccess plainBuild (heartRate 0x8000000000000000) plainBuild_writes plainAccess_requires
  rw [fromExpr_toExpr plainBuild_writes plainAccess_requires, if_neg (by decide)] at read
  cases read

end StreamHost.Proofs.WornEventWire
