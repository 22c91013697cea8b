import Mathlib.Data.Set.List
import StreamHost.Halo.Sample
import StreamHost.Proofs.FieldNames
import StreamHost.Proofs.WornEventWire

/-! The codec of Halo button records: what it reads, what it refuses and that it reads
what it writes. -/

namespace StreamHost.Proofs.ButtonCodec
open Halo WornEventWire

def HasField (entries : List (Expr × Expr)) (name : String) (value : Expr) : Prop :=
  ∃ entry ∈ entries, entry.1.bareName = some name ∧ entry.2 = value

/-- A field whose name is there once is read under either spelling. -/
structure ReadsOnce (access : Access) : Prop where
  required : ∀ {entries}, (fieldNames entries).Nodup → ∀ {name context value},
    access.required (.map entries) name context = .ok value ↔ HasField entries name value
  requiredSym : ∀ {entries}, (fieldNames entries).Nodup → ∀ {name context symbol},
    access.requiredSym (.map entries) name context = .ok symbol ↔ HasField entries name (.symbol symbol)
  requiredBool : ∀ {entries}, (fieldNames entries).Nodup → ∀ {name context value},
    access.requiredBool (.map entries) name context = .ok value ↔ HasField entries name (.bool value)

/-- A literal of an unsigned or signed domain that reads as the number. -/
def Numeral (number : UInt64) (value : Expr) : Prop :=
  ∃ literal, value = .number literal ∧ (literal.domain.name = "i64" ∨ literal.domain.name = "u64") ∧
    Decimal.parseU64 literal.canonical.toList = some number

/-- Each field is there once, and each has the value of the sample. -/
structure RecordOf (symbols : SampleSymbols) (sample : HaloButtonSample) (entries : List (Expr × Expr)) : Prop where
  names : (fieldNames entries).Perm (buttonFields.map some)
  kind : HasField entries "kind" (.symbol symbols.record)
  sampleKind : HasField entries "sample" (.symbol (symbols.kind "xr/button"))
  device : HasField entries "device" (.symbol symbols.haloDevice)
  seq : ∃ value, HasField entries "seq" value ∧ Numeral sample.seq value
  button : HasField entries "button" (.symbol sample.button.symbol)
  pressed : HasField entries "pressed" (.bool sample.pressed)
  tNs : ∃ value, HasField entries "t-ns" value ∧ Numeral sample.tNs value

section Names

private theorem buttonFields_nodup : (buttonFields.map some).Nodup := by decide

private theorem ensureField_ok_iff {found next : List String} {entry : Expr × Expr} : ensureField found entry = .ok next ↔
    ∃ name ∈ buttonFields, entry.1.bareName = some name ∧ name ∉ found ∧ next = name :: found := by
  rw [ensureField]
  cases entry.1.bareName with
  | none =>
    apply iff_of_false (fun passed => by cases passed)
    intro ⟨_, _, spelled, _⟩
    cases spelled
  | some name =>
    simp only [Except.bind_eq_ok, Except.rejectIf_eq_ok, not_not, pure, Except.pure, Except.ok.injEq, Option.some.injEq]
    constructor
    · intro passed
      obtain ⟨_, known, _, fresh, made⟩ := passed
      exact ⟨name, known, rfl, fresh, made.symm⟩
    · intro named
      obtain ⟨_, known, rfl, fresh, made⟩ := named
      exact ⟨(), known, (), fresh, made.symm⟩

/-- A scan of the keys that passes has seen known names only, each of them once. -/
theorem foldlM_ensureField {entries : List (Expr × Expr)} {found last : List String} :
    entries.foldlM ensureField found = .ok last ↔
      (∀ name ∈ fieldNames entries, name ∈ buttonFields.map some) ∧ (fieldNames entries).Nodup ∧
      (∀ name ∈ found, some name ∉ fieldNames entries) ∧
      last.map some = (fieldNames entries).reverse ++ found.map some := by
  induction entries generalizing found with
  | nil =>
    have same : found = last ↔ last.map some = found.map some := by
      rw [eq_comm, (List.map_injective_iff.mpr (Option.some_injective String)).eq_iff]
    simpa [fieldNames, pure, Except.pure] using same
  | cons entry rest ih =>
    have names : fieldNames (entry :: rest) = entry.1.bareName :: fieldNames rest := rfl
    simp only [List.foldlM_cons, Except.bind_eq_ok, ensureField_ok_iff, ih, names]
    constructor
    · intro passed
      obtain ⟨_, ⟨name, known, spelled, fresh, rfl⟩, later, once, apart, seen⟩ := passed
      obtain ⟨here, apart⟩ := List.forall_mem_cons.mp apart
      rw [spelled]
      refine ⟨List.forall_mem_cons.mpr ⟨List.mem_map_of_mem known, later⟩, List.nodup_cons.mpr ⟨here, once⟩, ?_, ?_⟩
      · intro other member listed
        rcases List.mem_cons.mp listed with same | listed
        · exact fresh (Option.some.inj same ▸ member)
        · exact apart other member listed
      · rw [seen, List.map_cons, List.reverse_cons, List.append_assoc, List.singleton_append]
    · intro all
      obtain ⟨known, once, apart, seen⟩ := all
      obtain ⟨here, later⟩ := List.forall_mem_cons.mp known
      obtain ⟨name, known, spelled⟩ := List.mem_map.mp here
      rw [← spelled] at once apart seen
      obtain ⟨single, once⟩ := List.nodup_cons.mp once
      refine ⟨name :: found, ⟨name, known, spelled.symm, ?_, rfl⟩, later, once, ?_, ?_⟩
      · intro member
        exact apart name member List.mem_cons_self
      · refine List.forall_mem_cons.mpr ⟨single, ?_⟩
        intro other member listed
        exact apart other member (List.mem_cons_of_mem _ listed)
      · rw [seen, List.map_cons, List.reverse_cons, List.append_assoc, List.singleton_append]

private theorem ensureFields_ok_iff {entries : List (Expr × Expr)} {result : Unit} :
    ensureFields (.map entries) = .ok result ↔ (fieldNames entries).Perm (buttonFields.map some) := by
  simp only [ensureFields, Except.bind_eq_ok, Except.rejectIf_eq_ok, not_not, foldlM_ensureField]
  constructor
  · intro passed
    obtain ⟨found, ⟨known, once, _, seen⟩, all⟩ := passed
    have lengths : (buttonFields.map some).length ≤ (fieldNames entries).length := by
      have counted := congrArg List.length seen
      rw [List.length_map, List.length_append, List.length_reverse] at counted
      rw [List.length_map, ← all, counted]
      exact Nat.le_refl _
    exact (List.subperm_of_subset once known).perm_of_length_le lengths
  · intro names
    have spelled : (fieldNames entries).reverse ∈ Set.range (List.map some) := by
      rw [Set.range_list_map]
      intro name member
      obtain ⟨field, _, same⟩ := List.mem_map.mp (names.mem_iff.mp (List.mem_reverse.mp member))
      exact ⟨field, same⟩
    obtain ⟨found, seen⟩ := spelled
    refine ⟨found, ⟨fun name member => names.mem_iff.mp member, names.nodup_iff.mpr buttonFields_nodup,
      List.forall_mem_nil _, seen.trans (List.append_nil _).symm⟩, ?_⟩
    have counted := congrArg List.length seen
    rw [List.length_map, List.length_reverse, names.length_eq, List.length_map] at counted
    exact counted

end Names

section Read
variable {access : Access} (reads : ReadsOnce access) {entries : List (Expr × Expr)} (once : (fieldNames entries).Nodup)
  {field : String}

theorem fromSymbol_ok_iff {symbol : Symbol} {button : HaloButton} :
    HaloButton.fromSymbol symbol = .ok button ↔ symbol = button.symbol := by
  constructor
  · intro known
    unfold HaloButton.fromSymbol at known
    split at known
    · cases known
    · rename_i placed
      obtain ⟨ns, name⟩ := symbol
      obtain rfl : ns = some "stream/xr-button" := not_not.mp placed
      dsimp only at known
      split at known
      all_goals
        cases known
      all_goals rfl
  · intro same
    rw [same]
    cases button <;> rfl

include reads once

private theorem requiredSymbol_ok_iff {symbol : Symbol} :
    requiredSymbol access (.map entries) field = .ok symbol ↔ HasField entries field (.symbol symbol) := by
  rw [requiredSymbol, mapSampleError, Except.mapError_eq_ok, reads.requiredSym once]

private theorem expectSymbol_ok_iff {expected : Symbol} {result : Unit} :
    expectSymbol access (.map entries) field expected = .ok result ↔ HasField entries field (.symbol expected) := by
  simp only [expectSymbol, Except.bind_eq_ok, requiredSymbol_ok_iff reads once, Except.rejectIf_eq_ok, not_not,
    exists_eq_right]

theorem requiredU64_ok_iff {number : UInt64} : Halo.requiredU64 access (.map entries) field = .ok number ↔
    ∃ value, HasField entries field value ∧ Numeral number value := by
  rw [Halo.requiredU64, mapSampleError, Except.bind_eq_ok]
  apply exists_congr
  intro value
  rw [Except.mapError_eq_ok, reads.required once]
  apply and_congr_right
  intro _
  constructor
  · intro passed
    split at passed
    · rename_i literal _
      split at passed
      · rename_i known
        split at passed
        · rename_i parsed
          cases passed
          exact ⟨literal, rfl, known, parsed⟩
        · cases passed
      · cases passed
    · cases passed
  · intro numeral
    obtain ⟨literal, rfl, known, parsed⟩ := numeral
    simp only [if_pos known, parsed]
    rfl

private theorem pressed_ok_iff {pressed : Bool} :
    mapSampleError access (access.requiredBool (.map entries) field "Halo button") = .ok pressed ↔
      HasField entries field (.bool pressed) := by
  rw [mapSampleError, Except.mapError_eq_ok, reads.requiredBool once]

omit once in
/-- What is read is what the record says. -/
theorem fromExpr_ok_iff {symbols : SampleSymbols} {sample : HaloButtonSample} :
    HaloButtonSample.fromExpr access symbols (.map entries) = .ok sample ↔ RecordOf symbols sample entries := by
  rw [HaloButtonSample.fromExpr]
  simp only [Except.bind_eq_ok, ensureFields_ok_iff]
  constructor
  · intro passed
    obtain ⟨_, names, passed⟩ := passed
    have once := names.nodup_iff.mpr buttonFields_nodup
    simp only [expectSymbol_ok_iff reads once, requiredU64_ok_iff reads once, requiredSymbol_ok_iff reads once,
      pressed_ok_iff reads once, fromSymbol_ok_iff] at passed
    obtain ⟨_, kind, _, sampleKind, _, device, _, seq, _, button, _, rfl, _, pressed, _, tNs, made⟩ := passed
    cases made
    exact { names, kind, sampleKind, device, seq, button, pressed, tNs }
  · intro record
    have once := record.names.nodup_iff.mpr buttonFields_nodup
    simp only [expectSymbol_ok_iff reads once, requiredU64_ok_iff reads once, requiredSymbol_ok_iff reads once,
      pressed_ok_iff reads once, fromSymbol_ok_iff]
    exact ⟨(), record.names, (), record.kind, (), record.sampleKind, (), record.device, _, record.seq, _, record.button, _,
      rfl, _, record.pressed, _, record.tNs, rfl⟩

end Read

section Codec
variable {access : Access} {build : Build}

private theorem hasField_written {fields : List (String × Expr)} {name : String} {value : Expr} (member : (name, value) ∈ fields) :
    HasField (fields.map fun field => (.symbol (.new field.1), field.2)) name value :=
  ⟨_, List.mem_map_of_mem member, rfl, rfl⟩

private theorem numeral_uint (writes : Writes build) (number : UInt64) : Numeral number (build.uint number) := by
  obtain ⟨domain, known, written⟩ := writes.uint number
  exact ⟨_, written, known, Decimal.parseU64_toString number⟩

private theorem toExpr_record (writes : Writes build) (symbols : SampleSymbols) (sample : HaloButtonSample) :
    ∃ entries, sample.toExpr build symbols = .map entries ∧ RecordOf symbols sample entries := by
  refine ⟨_, writes.map _, ?_⟩
  constructor
  case names => exact .refl _
  case kind | sampleKind | device | button | pressed =>
    apply hasField_written
    simp
  case seq => exact ⟨_, hasField_written (by simp), numeral_uint writes sample.seq⟩
  case tNs => exact ⟨_, hasField_written (by simp), numeral_uint writes sample.tNs⟩

/-- A field is missing, is there twice, or is none of a button's under a bare name. -/
def Irregular (entries : List (Expr × Expr)) : Prop :=
  (∃ field ∈ buttonFields, some field ∉ fieldNames entries) ∨ ¬ (fieldNames entries).Nodup ∨
    ∃ name ∈ fieldNames entries, name ∉ buttonFields.map some

/-- The button record is a strict codec. -/
theorem button_codec (reads : ReadsOnce access) (writes : Writes build) (symbols : SampleSymbols) :
    (∀ sample, HaloButtonSample.fromExpr access symbols (sample.toExpr build symbols) = .ok sample) ∧
    (∀ expr sample, HaloButtonSample.fromExpr access symbols expr = .ok sample ↔
      ∃ entries, expr = .map entries ∧ RecordOf symbols sample entries) ∧
    ∀ entries, Irregular entries → ∃ error, HaloButtonSample.fromExpr access symbols (.map entries) = .error error := by
  refine ⟨?_, ?_, ?_⟩
  · intro sample
    obtain ⟨entries, written, record⟩ := toExpr_record writes symbols sample
    rw [written]
    exact (fromExpr_ok_iff reads).mpr record
  · intro expr sample
    cases expr with
    | map entries => simp only [fromExpr_ok_iff reads, Expr.map.injEq, exists_eq_left']
    | nil | bool | number | string | symbol | bytes | list | other =>
      apply iff_of_false (fun passed => by cases passed)
      intro record
      obtain ⟨_, same, _⟩ := record
      cases same
  · intro entries irregular
    cases read : HaloButtonSample.fromExpr access symbols (.map entries) with
    | error error => exact ⟨error, rfl⟩
    | ok sample =>
      have names := ((fromExpr_ok_iff reads).mp read).names
      rcases irregular with missing | repeated | unknown
      · obtain ⟨field, known, absent⟩ := missing
        exact absurd (names.mem_iff.mpr (List.mem_map_of_mem known)) absent
      · exact absurd (names.nodup_iff.mpr buttonFields_nodup) repeated
      · obtain ⟨name, listed, foreign⟩ := unknown
        exact absurd (names.mem_iff.mp listed) foreign

private theorem readsOnce_of_requires (requires : access.Requires) : ReadsOnce access := by
  have found {entries : List (Expr × Expr)} (once : (fieldNames entries).Nodup) {name : String} {value : Expr} :
      (∃ others, Expr.map entries = .map others ∧ firstField others name = some value) ↔ HasField entries name value := by
    rw [HasField, ← firstField_eq_some_iff once]
    simp only [Expr.map.injEq, exists_eq_left']
  constructor
  · exact fun once => requires.required.trans (found once)
  · exact fun once => requires.requiredSym.trans (found once)
  · exact fun once => requires.requiredBool.trans (found once)

def haloSymbols : SampleSymbols where
  record := .qualified "stream/device-sample" "record"
  kind := .qualified "stream/device-sample"
  haloDevice := .qualified "device" "halo"

/-- A record whose fields are in another order, and under strings. -/
def reordered : List (Expr × Expr) :=
  [(.string "t-ns", .number ⟨.new "i64", "+99"⟩), (.string "pressed", .bool true),
    (.symbol (.new "button"), .symbol (.qualified "stream/xr-button" "primary")),
    (.string "device", .symbol haloSymbols.haloDevice), (.string "seq", .number ⟨.new "u64", "004"⟩),
    (.string "sample", .symbol (haloSymbols.kind "xr/button")), (.string "kind", .symbol haloSymbols.record)]

theorem reordered_button_read :
    HaloButtonSample.fromExpr plainAccess haloSymbols ((⟨4, .primary, true, 99⟩ : HaloButtonSample).toExpr plainBuild
      haloSymbols) = .ok ⟨4, .primary, true, 99⟩ ∧
    HaloButtonSample.fromExpr plainAccess haloSymbols (.map reordered) = .ok ⟨4, .primary, true, 99⟩ := by
  obtain ⟨trip, read, _⟩ := button_codec (readsOnce_of_requires plainAccess_lawful) plainBuild_writes haloSymbols
  refine ⟨trip _, (read _ _).mpr ⟨reordered, rfl, ?_⟩⟩
  constructor
  case names => decide
  case kind | sampleKind | device | button | pressed => exact firstField_mem rfl
  case seq => exact ⟨_, firstField_mem rfl, ⟨_, rfl, .inr rfl, by decide⟩⟩
  case tNs => exact ⟨_, firstField_mem rfl, ⟨_, rfl, .inl rfl, by decide⟩⟩

end Codec

end StreamHost.Proofs.ButtonCodec
