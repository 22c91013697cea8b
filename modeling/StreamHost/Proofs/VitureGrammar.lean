import StreamHost.Proofs.FieldChecks
import StreamHost.Proofs.WornEventWire
import StreamHost.Viture.DeviceControl

/-! The grammar of VITURE commands: the map of each packet is read as that packet in any
order, and what is read is the map of a packet in range. The command and its value may be
spelled either way; the kind is looked up under a bare symbol only. -/

namespace StreamHost.Proofs.VitureGrammar
open Viture FieldChecks WornEventWire

def valueField : VitureCommandKind → String
  | .imuReports | .display3d => "enabled"
  | .imuRate => "hz"
  | .brightness | .privacyFilm => "level"

def fields (kind : VitureCommandKind) : List String := ["kind", "command", valueField kind]

theorem fields_nodup (kind : VitureCommandKind) : ((fields kind).map some).Nodup := by cases kind <;> decide

/-- A level of at most 100, a rate other than zero. -/
def InRange : VitureControlPacket → Prop
  | .imuReports _ | .display3d _ => True
  | .imuRate rate => rate.hz ≠ 0
  | .brightness level | .privacyFilm level => level ≤ 100

/-- The expression is the packet's flag, or a number of its size. -/
def Denotes (value : Expr) : VitureControlPacket → Prop
  | .imuReports enabled | .display3d enabled => value = .bool enabled
  | .imuRate rate => value.asU64 = some rate.hz.toUInt64
  | .brightness level | .privacyFilm level => value.asU64 = some level.toUInt64

/-- A rate is made of every number but zero. -/
def MakesRates (rateNew : UInt32 → Option LegacyImuRate) : Prop :=
  ∀ hz rate, rateNew hz = some rate ↔ hz ≠ 0 ∧ rate.hz = hz

/-- What the entries say, by the first entry of each name; the kind by its first bare symbol. -/
structure Describes (entries : List (Expr × Expr)) (packet : VitureControlPacket) : Prop where
  named : ∀ name ∈ fieldNames entries, name ∈ (fields packet.kind).map some
  kind : symbolField entries "kind" = some (.symbol (.qualified "view-viture" "command"))
  command : firstField entries "command" = some (.symbol (vitureCommandSymbol packet.kind))
  value : ∃ value, firstField entries (valueField packet.kind) = some value ∧ Denotes value packet
  range : InRange packet

theorem fromSymbol_ok_iff {symbol : Symbol} {kind : VitureCommandKind} :
    VitureCommandKind.fromSymbol symbol = .ok kind ↔ symbol = vitureCommandSymbol kind := by
  constructor
  · intro known
    unfold VitureCommandKind.fromSymbol at known
    split at known
    · cases known
    · rename_i placed
      obtain ⟨ns, name⟩ := symbol
      obtain rfl : ns = some "viture/command" := not_not.mp placed
      dsimp only at known
      split at known
      all_goals
        cases known
      all_goals rfl
  · intro same
    rw [same]
    cases kind <;> rfl

section Read
variable {access : Access} (requires : access.Requires) {entries : List (Expr × Expr)} {field context : String}

private theorem narrow_u32 {wide : UInt64} {number : UInt32} {error : DeviceError} :
    (if wide.toNat < UInt32.size then (return wide.toUInt32 : DeviceResult UInt32) else .error error) = .ok number ↔
      wide = number.toUInt64 := by
  constructor
  · intro narrowed
    split at narrowed
    · rename_i small
      cases narrowed
      apply UInt64.toNat_inj.mp
      rw [UInt32.toNat_toUInt64, UInt64.toNat_toUInt32]
      exact (Nat.mod_eq_of_lt small).symm
    · cases narrowed
  · intro same
    rw [same, UInt32.toNat_toUInt64, if_pos number.toNat_lt_size, UInt32.toUInt32_toUInt64]
    rfl

private theorem narrow_percent {wide : UInt64} {level : UInt8} {error : DeviceError} :
    (if wide.toNat < UInt8.size ∧ wide.toUInt8 ≤ 100 then (return wide.toUInt8 : DeviceResult UInt8)
      else .error error) = .ok level ↔ wide = level.toUInt64 ∧ level ≤ 100 := by
  constructor
  · intro narrowed
    split at narrowed
    · rename_i small
      cases narrowed
      refine ⟨?_, small.2⟩
      apply UInt64.toNat_inj.mp
      rw [UInt8.toNat_toUInt64, UInt64.toNat_toUInt8]
      exact (Nat.mod_eq_of_lt small.1).symm
    · cases narrowed
  · intro ⟨same, bounded⟩
    rw [same, UInt8.toNat_toUInt64, UInt8.toUInt8_toUInt64, if_pos ⟨level.toNat_lt_size, bounded⟩]
    rfl

include requires

private theorem requiredU32_ok_iff {number : UInt32} :
    requiredU32 access (.map entries) field context = .ok number ↔
      ∃ value, firstField entries field = some value ∧ value.asU64 = some number.toUInt64 := by
  simp only [requiredU32, Except.bind_eq_ok, narrow_u32, exists_eq_right]
  exact requiredU64_ok_iff requires

private theorem requiredPercent_ok_iff {level : UInt8} :
    requiredPercent access (.map entries) field context = .ok level ↔
      (∃ value, firstField entries field = some value ∧ value.asU64 = some level.toUInt64) ∧ level ≤ 100 := by
  simp only [requiredPercent, Except.bind_eq_ok, narrow_percent]
  constructor
  · intro ⟨wide, read, same, bounded⟩
    rw [same] at read
    exact ⟨(requiredU64_ok_iff requires).mp read, bounded⟩
  · intro ⟨found, bounded⟩
    exact ⟨_, (requiredU64_ok_iff requires).mpr found, rfl, bounded⟩

end Read

section Encode
variable {access : Access}

private theorem ensureCommandFields_ok_iff {entries : List (Expr × Expr)} {kind : VitureCommandKind} :
    ensureCommandFields access (.map entries) [valueField kind] = .ok () ↔
      ∀ name ∈ fieldNames entries, name ∈ (fields kind).map some := by
  rw [ensureCommandFields, ensureNoExtra_ok_iff]
  simp only [Expr.map.injEq, exists_eq_left']
  rfl

variable (reads : access.ReadsSymbols) (requires : access.Requires)
  {rateNew : UInt32 → Option LegacyImuRate} (rates : MakesRates rateNew)
include reads requires rates

private theorem describes_of_accepted {entries : List (Expr × Expr)} {packet : VitureControlPacket}
    (accepted : encodeVitureCommand access rateNew (.map entries) = .ok packet) : Describes entries packet := by
  simp only [encodeVitureCommand, Except.bind_eq_ok] at accepted
  obtain ⟨_, ofKind, symbol, read, found, known, body⟩ := accepted
  have kind := (ensureKind_ok_iff reads).mp ofKind
  have command : firstField entries "command" = some (.symbol (vitureCommandSymbol found)) := by
    obtain ⟨_, same, first⟩ := requires.requiredSym.mp (Except.mapError_eq_ok.mp read)
    cases same
    rw [first, fromSymbol_ok_iff.mp known]
  cases found with
  | imuReports | display3d =>
    obtain ⟨_, checked, body⟩ := Except.bind_eq_ok.mp body
    obtain ⟨enabled, flag, made⟩ := Except.bind_eq_ok.mp body
    cases made
    exact ⟨ensureCommandFields_ok_iff.mp checked, kind, command, ⟨_, (requiredBool_ok_iff requires).mp flag, rfl⟩, trivial⟩
  | imuRate =>
    obtain ⟨_, checked, body⟩ := Except.bind_eq_ok.mp body
    obtain ⟨hz, number, made⟩ := Except.bind_eq_ok.mp body
    obtain ⟨value, first, size⟩ := (requiredU32_ok_iff requires).mp number
    cases rated : rateNew hz with
    | none =>
      simp only [rated] at made
      cases made
    | some rate =>
      simp only [rated] at made
      cases made
      obtain ⟨positive, rfl⟩ := (rates hz rate).mp rated
      exact ⟨ensureCommandFields_ok_iff.mp checked, kind, command, ⟨value, first, size⟩, positive⟩
  | brightness | privacyFilm =>
    obtain ⟨_, checked, body⟩ := Except.bind_eq_ok.mp body
    obtain ⟨level, number, made⟩ := Except.bind_eq_ok.mp body
    cases made
    obtain ⟨value, bounded⟩ := (requiredPercent_ok_iff requires).mp number
    exact ⟨ensureCommandFields_ok_iff.mp checked, kind, command, value, bounded⟩

private theorem accepted_of_describes {entries : List (Expr × Expr)} {packet : VitureControlPacket}
    (described : Describes entries packet) : encodeVitureCommand access rateNew (.map entries) = .ok packet := by
  have read : access.mapHostError (access.requiredSym (.map entries) "command" "VITURE command") =
      .ok (vitureCommandSymbol packet.kind) :=
    Except.mapError_eq_ok.mpr (requires.requiredSym.mpr ⟨entries, rfl, described.command⟩)
  have checked : ensureCommandFields access (.map entries) [valueField packet.kind] = .ok () :=
    ensureCommandFields_ok_iff.mpr described.named
  obtain ⟨value, first, denotes⟩ := described.value
  simp only [encodeVitureCommand, Except.bind_eq_ok]
  refine ⟨(), (ensureKind_ok_iff reads).mpr described.kind, _, read, _, fromSymbol_ok_iff.mpr rfl, ?_⟩
  cases packet with
  | imuReports enabled | display3d enabled =>
    cases denotes
    exact Except.bind_eq_ok.mpr ⟨(), checked, Except.bind_eq_ok.mpr ⟨_, (requiredBool_ok_iff requires).mpr first, rfl⟩⟩
  | imuRate rate =>
    have rated := (rates rate.hz rate).mpr ⟨described.range, rfl⟩
    refine Except.bind_eq_ok.mpr ⟨(), checked, Except.bind_eq_ok.mpr
      ⟨_, (requiredU32_ok_iff requires).mpr ⟨value, first, denotes⟩, ?_⟩⟩
    simp only [rated]
    rfl
  | brightness level | privacyFilm level =>
    exact Except.bind_eq_ok.mpr ⟨(), checked, Except.bind_eq_ok.mpr
      ⟨_, (requiredPercent_ok_iff requires).mpr ⟨⟨value, first, denotes⟩, described.range⟩, rfl⟩⟩

end Encode

section Grammar
variable {build : Build}

/-- The value field of the packet's command. -/
def valueExpr (build : Build) : VitureControlPacket → Expr
  | .imuReports enabled | .display3d enabled => .bool enabled
  | .imuRate rate => build.uint rate.hz.toUInt64
  | .brightness level | .privacyFilm level => build.uint level.toUInt64

/-- Exactly the entries of the packet's command, in any order, each under either spelling. -/
def SpellsCommand (build : Build) (packet : VitureControlPacket) (entries : List (Expr × Expr)) : Prop :=
  (entries.map fun entry => (entry.1.bareName, entry.2)).Perm
    [(some "kind", .symbol (.qualified "view-viture" "command")),
      (some "command", .symbol (vitureCommandSymbol packet.kind)),
      (some (valueField packet.kind), valueExpr build packet)]

/-- The same, with the kind under a bare symbol. -/
structure IsCommand (build : Build) (packet : VitureControlPacket) (entries : List (Expr × Expr)) : Prop where
  spelled : SpellsCommand build packet entries
  kindKeyed : SymbolKeyed entries "kind"

private theorem valueExpr_denotes (writes : Writes build) (packet : VitureControlPacket) :
    Denotes (valueExpr build packet) packet := by
  cases packet with
  | imuReports enabled | display3d enabled => rfl
  | imuRate rate =>
    have small : rate.hz.toUInt64.toNat < 2 ^ 63 := by
      have word : rate.hz.toNat < 2 ^ 32 := rate.hz.toNat_lt
      rw [UInt32.toNat_toUInt64]
      omega
    exact (asU64_uint writes _).trans (if_pos small)
  | brightness level | privacyFilm level =>
    have small : level.toUInt64.toNat < 2 ^ 63 := by
      have byte : level.toNat < 2 ^ 8 := level.toNat_lt
      rw [UInt8.toNat_toUInt64]
      omega
    exact (asU64_uint writes _).trans (if_pos small)

private theorem describes_of_isCommand (writes : Writes build) {packet : VitureControlPacket} (range : InRange packet)
    {entries : List (Expr × Expr)} (command : IsCommand build packet entries) : Describes entries packet := by
  have spelled := command.spelled
  unfold SpellsCommand at spelled
  have names : (fieldNames entries).Perm ((fields packet.kind).map some) := by
    have firsts := spelled.map Prod.fst
    rw [List.map_map] at firsts
    exact firsts
  have once : (fieldNames entries).Nodup := names.nodup_iff.mpr (fields_nodup packet.kind)
  have found : ∀ {name : String} {value : Expr}, (some name, value) ∈
      [(some "kind", Expr.symbol (.qualified "view-viture" "command")),
        (some "command", .symbol (vitureCommandSymbol packet.kind)),
        (some (valueField packet.kind), valueExpr build packet)] → firstField entries name = some value := by
    intro name value listed
    obtain ⟨entry, member, same⟩ := List.mem_map.mp (spelled.mem_iff.mpr listed)
    obtain ⟨named, held⟩ := Prod.mk.inj same
    exact (firstField_eq_some_iff once).mpr ⟨entry, member, named, held⟩
  constructor
  · intro name member
    exact names.mem_iff.mp member
  · rw [symbolField_eq_firstField command.kindKeyed]
    exact found (by simp)
  · exact found (by simp)
  · exact ⟨_, found (by simp), valueExpr_denotes writes packet⟩
  · exact range

/-- The command map of every packet in range is read as that packet, and exactly the maps that
describe a packet are read as that packet. -/
theorem viture_command_grammar {access : Access} (reads : access.ReadsSymbols) (requires : access.Requires)
    (writes : Writes build) {rateNew : UInt32 → Option LegacyImuRate} (rates : MakesRates rateNew) :
    (∀ packet, InRange packet → ∀ entries, IsCommand build packet entries →
      encodeVitureCommand access rateNew (.map entries) = .ok packet) ∧
    ∀ command packet, encodeVitureCommand access rateNew command = .ok packet ↔
      ∃ entries, command = .map entries ∧ Describes entries packet := by
  constructor
  · intro packet range entries spelled
    exact accepted_of_describes reads requires rates (describes_of_isCommand writes range spelled)
  intro command packet
  constructor
  · intro accepted
    have map : ∃ entries, command = .map entries := by
      obtain ⟨_, _, rest⟩ := Except.bind_eq_ok.mp accepted
      obtain ⟨symbol, read, _⟩ := Except.bind_eq_ok.mp rest
      obtain ⟨entries, same, _⟩ := requires.requiredSym.mp (Except.mapError_eq_ok.mp read)
      exact ⟨entries, same⟩
    obtain ⟨entries, rfl⟩ := map
    exact ⟨entries, rfl, describes_of_accepted reads requires rates accepted⟩
  · intro ⟨entries, same, described⟩
    rw [same]
    exact accepted_of_describes reads requires rates described

def plainRate (hz : UInt32) : Option LegacyImuRate := if hz ≠ 0 then some ⟨hz⟩ else none

private theorem plainRate_makes : MakesRates plainRate := by
  intro hz rate
  rw [plainRate, Option.ite_none_right_eq_some, Option.some.injEq]
  apply and_congr_right
  intro _
  constructor
  · intro same
    rw [← same]
  · intro same
    rw [← same]

/-- A brightness command, value first and its level under a string key. -/
def brightnessEntries : List (Expr × Expr) :=
  [(.string "level", plainBuild.uint 40),
    (.symbol (.new "command"), .symbol (vitureCommandSymbol .brightness)),
    (.symbol (.new "kind"), .symbol (.qualified "view-viture" "command"))]

theorem brightness_command_read :
    encodeVitureCommand plainAccess plainRate (.map brightnessEntries) = .ok (.brightness 40) := by
  apply (viture_command_grammar plainAccess_reads plainAccess_lawful plainBuild_writes plainRate_makes).1
  · exact (by decide : (40 : UInt8) ≤ 100)
  · constructor
    · exact List.reverse_perm [(some "kind", .symbol (.qualified "view-viture" "command")),
        (some "command", .symbol (vitureCommandSymbol .brightness)), (some "level", plainBuild.uint 40)]
    · simp [SymbolKeyed, brightnessEntries]

/-- A brightness command whose kind is under a string key is refused. -/
theorem string_keyed_kind_refused :
    ¬ ∀ (access : Access) (build : Build) (rateNew : UInt32 → Option LegacyImuRate), access.ReadsSymbols →
      access.Requires → Writes build → MakesRates rateNew → ∀ packet, InRange packet → ∀ entries,
        SpellsCommand build packet entries → encodeVitureCommand access rateNew (.map entries) = .ok packet := by
  intro always
  have accepted := always plainAccess plainBuild plainRate plainAccess_reads plainAccess_lawful plainBuild_writes
    plainRate_makes (.brightness 1) (by decide : (1 : UInt8) ≤ 100)
    [(.string "kind", .symbol (.qualified "view-viture" "command")),
      (.symbol (.new "command"), .symbol (vitureCommandSymbol .brightness)),
      (.symbol (.new "level"), plainBuild.uint 1)] (.refl _)
  cases accepted

end Grammar

end StreamHost.Proofs.VitureGrammar
