import StreamHost.Lib.Result

/-! Scans of a list that stop at the first item they refuse. What a scan remembers of the
items before is a summary of them; from what it does with one item it accepts exactly the
acceptable lists, and every other list is refused at its first offender. -/

universe u v w

/-- One item more is accepted and summed up, or it is blamed in view of those before it. -/
structure Scans {σ : Type u} {α : Type v} {ε : Type w} (step : σ → α → Except ε σ) (accepts : List α → Prop)
    (summary : List α → σ → Prop) (blames : List α → α → ε → Prop) : Prop where
  step : ∀ {earlier state} item, accepts earlier → summary earlier state →
    (∃ next, step state item = .ok next ∧ accepts (earlier ++ [item]) ∧ summary (earlier ++ [item]) next) ∨
      ∃ error, step state item = .error error ∧ blames earlier item error
  apart : ∀ {earlier item later error}, blames earlier item error → ¬ accepts (earlier ++ item :: later)

namespace Scans
variable {σ : Type u} {α : Type v} {ε : Type w} {step : σ → α → Except ε σ} {accepts : List α → Prop}
  {summary : List α → σ → Prop} {blames : List α → α → ε → Prop} (scans : Scans step accepts summary blames)

/-- The first offender among some items, with everything before it acceptable. -/
def FirstOffender (accepts : List α → Prop) (blames : List α → α → ε → Prop) (items : List α) (error : ε) : Prop :=
  ∃ earlier item later, items = earlier ++ item :: later ∧ accepts earlier ∧ blames earlier item error

include scans

theorem run {done : List α} {state : σ} (accepted : accepts done) (summed : summary done state) (items : List α) :
    (∃ last, items.foldlM step state = .ok last ∧ accepts (done ++ items)) ∨
      ∃ error earlier item later, items.foldlM step state = .error error ∧ items = earlier ++ item :: later ∧
        accepts (done ++ earlier) ∧ blames (done ++ earlier) item error := by
  induction items generalizing done state with
  | nil => exact .inl ⟨state, rfl, by rwa [List.append_nil]⟩
  | cons item rest ih =>
    obtain ⟨next, stepped, acceptedToo, summedToo⟩ | ⟨error, refused, blamed⟩ := scans.step item accepted summed
    · rw [List.foldlM_cons, stepped]
      obtain ⟨last, scanned, all⟩ | ⟨error, earlier, other, later, refused, rfl, kept, blamed⟩ := ih acceptedToo summedToo
      · left
        rw [List.append_assoc] at all
        exact ⟨last, scanned, all⟩
      · right
        rw [List.append_assoc] at kept blamed
        exact ⟨error, item :: earlier, other, later, refused, rfl, kept, blamed⟩
    · right
      rw [List.foldlM_cons, refused]
      refine ⟨error, [], item, rest, rfl, rfl, ?_, ?_⟩
      · rwa [List.append_nil]
      · rwa [List.append_nil]

variable {state : σ} (accepted : accepts []) (summed : summary [] state)
include accepted summed

theorem ok_iff (items : List α) : (∃ last, items.foldlM step state = .ok last) ↔ accepts items := by
  obtain ⟨last, scanned, all⟩ | ⟨error, earlier, item, later, refused, rfl, _, blamed⟩ := scans.run accepted summed items
  · exact iff_of_true ⟨last, scanned⟩ all
  · rw [refused]
    exact iff_of_false (fun ⟨last, scanned⟩ => nomatch scanned) (scans.apart blamed)

theorem error_offender {items : List α} {error : ε} (refused : items.foldlM step state = .error error) :
    FirstOffender accepts blames items error := by
  obtain ⟨last, scanned, _⟩ | ⟨found, earlier, item, later, same, split, before, blamed⟩ := scans.run accepted summed items
  · cases refused.symm.trans scanned
  · obtain rfl := Except.error.inj (refused.symm.trans same)
    exact ⟨earlier, item, later, split, before, blamed⟩

end Scans

/-! Checks in sequence, against the list of all that is wrong. -/

namespace Except
variable {ε : Type u} {α : Type v}

/-- The first complaint, if there is any. -/
def complain : List ε → Except ε PUnit.{v + 1}
  | [] => .ok ⟨⟩
  | complaint :: _ => .error complaint

theorem complain_eq_ok {complaints : List ε} {result : PUnit.{v + 1}} :
    complain complaints = .ok result ↔ complaints = [] := by
  cases complaints with
  | nil => exact iff_of_true rfl rfl
  | cons error rest =>
    apply iff_of_false
    · intro passed
      cases passed
    · exact List.cons_ne_nil error rest

theorem complain_append (first last : List ε) :
    (complain first >>= fun _ => complain last : Except ε PUnit.{v + 1}) = complain (first ++ last) := by
  cases first <;> rfl

theorem rejectIf_complains (condition : Prop) [Decidable condition] (error : ε) :
    (rejectIf condition error : Except ε PUnit.{v + 1}) = complain (if condition then [error] else []) := by
  unfold rejectIf
  split <;> rfl

theorem forM_complains {check : α → Except ε PUnit.{v + 1}} {complaints : α → List ε}
    (complains : ∀ item, check item = complain (complaints item)) (items : List α) :
    items.forM check = complain (items.flatMap complaints) := by
  induction items with
  | nil => rfl
  | cons item rest ih =>
    change (check item >>= fun _ => rest.forM check) = _
    rw [complains, ih, complain_append, List.flatMap_cons]

end Except
