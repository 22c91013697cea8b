import Mathlib.Logic.Basic

/-! Fallible steps in sequence: what a successful chain says of its parts. -/

universe u v

namespace Except
variable {ε : Type u} {α β : Type v}

/-- Refuses with `error` when `condition` holds, as `if condition { return Err }` does. -/
def rejectIf (condition : Prop) [Decidable condition] (error : ε) : Except ε PUnit.{v + 1} :=
  if condition then .error error else .ok ⟨⟩

theorem bind_eq_ok {first : Except ε α} {next : α → Except ε β} {result : β} :
    (first >>= next) = .ok result ↔ ∃ value, first = .ok value ∧ next value = .ok result := by
  cases first with
  | error error => exact ⟨nofun, nofun⟩
  | ok value => exact ⟨fun same => ⟨value, rfl, same⟩, fun ⟨_, rfl, same⟩ => same⟩

theorem rejectIf_eq_ok {condition : Prop} [Decidable condition] {error : ε} {result : PUnit.{v + 1}} :
    rejectIf condition error = .ok result ↔ ¬ condition := by
  unfold rejectIf
  split
  · rename_i refused; simp [refused]
  · rename_i passed; simp [passed]

theorem mapError_eq_ok {δ : Type u} {rename : ε → δ} {first : Except ε α} {result : α} :
    first.mapError rename = .ok result ↔ first = .ok result := by
  cases first with
  | error _ => exact iff_of_false (fun found => by cases found) (fun found => by cases found)
  | ok value =>
    constructor
    · intro found
      cases found
      rfl
    · intro found
      cases found
      rfl

theorem map_eq_ok {change : α → β} {first : Except ε α} {result : β} :
    first.map change = .ok result ↔ ∃ value, first = .ok value ∧ change value = result := by
  cases first <;> simp [Except.map]

theorem forM_eq_ok {items : List α} {check : α → Except ε PUnit.{v + 1}} {result : PUnit.{v + 1}} :
    items.forM check = .ok result ↔ ∀ item ∈ items, check item = .ok ⟨⟩ := by
  induction items with
  | nil => exact iff_of_true rfl (List.forall_mem_nil _)
  | cons item rest ih =>
    change (check item >>= fun _ => rest.forM check) = _ ↔ _
    rw [bind_eq_ok, List.forall_mem_cons, ← ih]
    exact ⟨fun ⟨_, here, later⟩ => ⟨here, later⟩, fun ⟨here, later⟩ => ⟨_, here, later⟩⟩

theorem mapM_ok_iff {items : List α} {build : α → Except ε β} :
    (∃ results, items.mapM build = .ok results) ↔ ∀ item ∈ items, ∃ result, build item = .ok result := by
  induction items with
  | nil => exact iff_of_true ⟨[], rfl⟩ (List.forall_mem_nil _)
  | cons item rest ih =>
    rw [List.mapM_cons, List.forall_mem_cons, ← ih]
    constructor
    · rintro ⟨results, built⟩
      obtain ⟨first, ok, later⟩ := bind_eq_ok.mp built
      obtain ⟨others, okRest, _⟩ := bind_eq_ok.mp later
      exact ⟨⟨first, ok⟩, ⟨others, okRest⟩⟩
    · rintro ⟨⟨first, ok⟩, ⟨others, okRest⟩⟩
      exact ⟨first :: others, bind_eq_ok.mpr ⟨first, ok, bind_eq_ok.mpr ⟨others, okRest, rfl⟩⟩⟩

def FailsWith (kind : ε → Prop) (result : Except ε α) : Prop := ∀ error, result = .error error → kind error

theorem FailsWith.rejectIf {kind : ε → Prop} {condition : Prop} [Decidable condition] {error : ε} (named : kind error) :
    FailsWith kind (rejectIf condition error : Except ε PUnit.{v + 1}) := by
  intro other failed
  unfold Except.rejectIf at failed
  split at failed
  · exact Except.error.inj failed ▸ named
  · cases failed

theorem FailsWith.bind {kind : ε → Prop} {first : Except ε α} {next : α → Except ε β}
    (here : FailsWith kind first) (later : ∀ value, FailsWith kind (next value)) : FailsWith kind (first >>= next) := by
  intro error failed
  cases first with
  | error _ => cases failed; exact here error rfl
  | ok value => exact later value error failed

/-- Whether a computation succeeds with a value of some kind is decided by running it. -/
instance decidableExistsOk (result : Except ε α) (holds : α → Prop) [DecidablePred holds] :
    Decidable (∃ value, result = .ok value ∧ holds value) :=
  match result with
  | .error _ => .isFalse nofun
  | .ok value => decidable_of_iff (holds value)
      ⟨fun kept => ⟨value, rfl, kept⟩, fun ⟨_, same, kept⟩ => Except.ok.inj same ▸ kept⟩

end Except
