import StreamHost.Lib.Machine

/-! Machines that drain a queue: some calls take its front, no call puts anything
in. What a run takes is then the queue from the front, whatever happens in between. -/

universe u v w x

namespace Machine
variable {σ : Type u} {ι : Type v} {ω : Type w} {α : Type x}

/-- In kept states a taking call removes the front of the queue and is answered from it. -/
structure Drains (machine : Machine σ ι ω) (kept : σ → Prop) (queue : σ → List α) (takes : ι → Bool)
    (answer : ι → Option α → ω) : Prop where
  keeps : ∀ state input, kept state → kept (machine.step state input).2
  answers : ∀ {input} state, kept state → takes input = true →
    (machine.step state input).1 = answer input (queue state).head?
  taking : ∀ {input} state, kept state → takes input = true → queue (machine.step state input).2 = (queue state).tail
  keeping : ∀ {input} state, kept state → takes input = false → queue (machine.step state input).2 = queue state

namespace Drains
variable {machine : Machine σ ι ω} {kept : σ → Prop} {queue : σ → List α} {takes : ι → Bool}
  {answer : ι → Option α → ω} (drains : machine.Drains kept queue takes answer) (state : σ) (initial : kept state)
include drains initial

/-- A run leaves the queue behind what its taking calls have removed. -/
theorem left (inputs : List ι) : queue (machine.final state inputs) = (queue state).drop (inputs.countP takes) := by
  induction inputs generalizing state with
  | nil => rfl
  | cons input rest ih =>
    rw [Machine.final, ih _ (drains.keeps state input initial)]
    cases taken : takes input with
    | true =>
      rw [drains.taking state initial taken, List.countP_cons_of_pos taken, ← List.drop_one, List.drop_drop, Nat.add_comm]
    | false =>
      rw [drains.keeping state initial taken, List.countP_cons_of_neg (by rw [taken]; exact Bool.false_ne_true)]

/-- A taking call is answered by the place it has among the taking calls of the run. -/
theorem place (earlier : List ι) (input : ι) (taken : takes input = true) :
    (machine.step (machine.final state earlier) input).1 = answer input (queue state)[earlier.countP takes]? := by
  have reached := machine.final_preserves kept drains.keeps initial earlier
  rw [drains.answers _ reached taken, drains.left state initial, List.head?_drop]

end Drains

end Machine
