import StreamHost.Lib.Machine
import Mathlib.Algebra.BigOperators.Group.List.Basic

/-! Lossy conveyors. What leaves keeps the order of what arrived, nothing leaves twice or
without having arrived, and what is neither out nor waiting is lost. What each step
conveys, a whole run conveys. -/

universe u v w x

/-- From the waiting items and the arrivals some depart, some wait on, and `lost` of them are lost. -/
structure Conveys {α : Type u} (before arrived departed after : List α) (lost : Nat) : Prop where
  order : (departed ++ after).Sublist (before ++ arrived)
  balance : before.length + arrived.length = departed.length + after.length + lost

namespace Conveys
variable {α : Type u} {before middle after arrived departed arrivedLater departedLater : List α} {lost lostLater : Nat}

theorem idle (waiting : List α) : Conveys waiting [] [] waiting 0 :=
  ⟨by rw [List.append_nil, List.nil_append], by rw [List.length_nil, Nat.add_zero, Nat.zero_add, Nat.add_zero]⟩

theorem arrive (waiting : List α) (item : α) : Conveys waiting [item] [] (waiting ++ [item]) 0 :=
  ⟨List.Sublist.refl _, by simp⟩

theorem depart (out rest : List α) : Conveys (out ++ rest) [] out rest 0 :=
  ⟨by rw [List.append_nil], by simp⟩

theorem replace (oldest : α) (rest : List α) (item : α) : Conveys (oldest :: rest) [item] [] (rest ++ [item]) 1 :=
  ⟨(List.sublist_cons_self oldest rest).append_right _, by simp⟩

theorem clear (waiting : List α) : Conveys waiting [] [] [] waiting.length :=
  ⟨List.nil_sublist _, by simp⟩

theorem trans (first : Conveys before arrived departed middle lost)
    (second : Conveys middle arrivedLater departedLater after lostLater) :
    Conveys before (arrived ++ arrivedLater) (departed ++ departedLater) after (lost + lostLater) where
  order := by
    have early := first.order.append_right arrivedLater
    have late := second.order.append_left departed
    rw [List.append_assoc, List.append_assoc] at early
    rw [← List.append_assoc] at late
    exact late.trans early
  balance := by
    have early := first.balance
    have late := second.balance
    rw [List.length_append, List.length_append]
    omega

end Conveys

namespace Machine
variable {σ : Type u} {ι : Type v} {ω : Type w} {α : Type x} (machine : Machine σ ι ω)

theorem conveys_run (waiting : σ → List α) {arrived departed : Event σ ι ω → List α} {lost : Event σ ι ω → Nat}
    (step : ∀ state input, Conveys (waiting state) (arrived (machine.event state input))
      (departed (machine.event state input)) (waiting (machine.step state input).2) (lost (machine.event state input)))
    (state : σ) (inputs : List ι) :
    Conveys (waiting state) ((machine.trace state inputs).flatMap arrived) ((machine.trace state inputs).flatMap departed)
      (waiting (machine.final state inputs)) ((machine.trace state inputs).map lost).sum := by
  induction inputs generalizing state with
  | nil => exact .idle _
  | cons input rest ih =>
    rw [trace_cons, List.flatMap_cons, List.flatMap_cons, List.map_cons, List.sum_cons]
    exact (step state input).trans (ih _)

end Machine
