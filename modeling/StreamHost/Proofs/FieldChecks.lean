import StreamHost.CommandFields
import StreamHost.Lib.Result
import StreamHost.Proofs.FieldNames

/-! What the shared field checks accept, as conditions on the first entries of a map.
The record kind is looked up under a bare symbol only. -/

namespace StreamHost.Proofs.FieldChecks

variable {access : Access} {entries : List (Expr × Expr)} {known : List String} {field context : String}

private theorem allowedKey_iff {key : Expr} : key.allowedKey known = true ↔ key.bareName ∈ known.map some := by
  rw [Expr.allowedKey, List.any_eq_true, List.mem_map]
  apply exists_congr
  intro name
  rw [Expr.spells_iff]
  exact and_congr_right fun _ => eq_comm

theorem ensureNoExtra_ok_iff {expr : Expr} : access.ensureNoExtra expr known context = .ok () ↔
    ∃ entries, expr = .map entries ∧ ∀ name ∈ fieldNames entries, name ∈ known.map some := by
  unfold Access.ensureNoExtra
  split
  · rename_i entries
    simp only [Expr.map.injEq, exists_eq_left', fieldNames, List.forall_mem_map, ← allowedKey_iff]
    cases extra : entries.find? fun entry => !entry.1.allowedKey known with
    | some entry =>
      apply iff_of_false (fun passed => by cases passed)
      intro allowed
      have unknown := List.find?_some extra
      have known := allowed entry (List.mem_of_find?_eq_some extra)
      simp only [known] at unknown
      cases unknown
    | none =>
      apply iff_of_true rfl
      intro entry member
      have checked := List.find?_eq_none.mp extra entry member
      simpa using checked
  · rename_i other
    apply iff_of_false (fun passed => by cases passed)
    intro allowed
    obtain ⟨entries, same, _⟩ := allowed
    exact other entries same

theorem ensureKind_ok_iff (reads : access.ReadsSymbols) {ns name : String} :
    access.ensureKind (.map entries) ns name context = .ok () ↔
      symbolField entries "kind" = some (.symbol (.qualified ns name)) := by
  rw [Access.ensureKind, Except.rejectIf_eq_ok, not_not, reads.fieldSym, Option.bind_eq_some_iff]
  constructor
  · intro read
    obtain ⟨value, first, symbol⟩ := read
    cases value
    case symbol found => rw [first, Option.some.inj symbol]
    all_goals cases symbol
  · intro first
    exact ⟨_, first, rfl⟩

theorem requiredU64_ok_iff (requires : access.Requires) {wrap : String → DeviceError} {number : UInt64} :
    access.requiredU64 wrap (.map entries) field context = .ok number ↔
      ∃ value, firstField entries field = some value ∧ value.asU64 = some number := by
  rw [Access.requiredU64, Except.bind_eq_ok]
  apply exists_congr
  intro value
  rw [Access.mapError, Except.mapError_eq_ok, requires.required]
  simp only [Expr.map.injEq, exists_eq_left']
  apply and_congr_right
  intro _
  cases value.asU64 with
  | none => exact iff_of_false (fun passed => by cases passed) (fun passed => by cases passed)
  | some found =>
    change Except.ok found = Except.ok number ↔ _
    rw [Except.ok.injEq, Option.some.injEq]

theorem requiredBool_ok_iff (requires : access.Requires) {wrap : String → DeviceError} {value : Bool} :
    access.mapError wrap (access.requiredBool (.map entries) field context) = .ok value ↔
      firstField entries field = some (.bool value) := by
  rw [Access.mapError, Except.mapError_eq_ok, requires.requiredBool]
  simp only [Expr.map.injEq, exists_eq_left']

end StreamHost.Proofs.FieldChecks
