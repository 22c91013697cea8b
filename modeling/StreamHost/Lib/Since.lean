import StreamHost.Lib.Machine

/-! What has held since it began. An event begins it and every later event keeps it; what
one step does to a condition on the state decides the condition at the end of any run. -/

universe u v w

namespace Machine
variable {σ : Type u} {ι : Type v} {ω : Type w}

/-- Some event began it, and every later one has kept it. -/
def Since (begins keeps : Event σ ι ω → Prop) (events : List (Event σ ι ω)) : Prop :=
  ∃ past event later, events = past ++ event :: later ∧ begins event ∧ ∀ next ∈ later, keeps next

variable {begins keeps : Event σ ι ω → Prop}

theorem since_nil : ¬ Since begins keeps [] := by
  intro since
  obtain ⟨past, event, later, split, _⟩ := since
  cases past <;> cases split

theorem since_concat {events : List (Event σ ι ω)} {last : Event σ ι ω} :
    Since begins keeps (events ++ [last]) ↔ begins last ∨ Since begins keeps events ∧ keeps last := by
  constructor
  · intro since
    obtain ⟨past, event, later, split, begun, kept⟩ := since
    cases later using List.reverseRecOn with
    | nil =>
      obtain ⟨_, same⟩ := List.append_inj' split rfl
      obtain rfl := (List.cons.inj same).1
      exact .inl begun
    | append_singleton later final =>
      rw [← List.cons_append, ← List.append_assoc] at split
      obtain ⟨rfl, same⟩ := List.append_inj' split rfl
      obtain rfl := (List.cons.inj same).1
      obtain ⟨before, now⟩ := List.forall_mem_append.mp kept
      exact .inr ⟨⟨past, event, later, rfl, begun, before⟩, now last List.mem_cons_self⟩
  · intro either
    obtain begun | ⟨⟨past, event, later, rfl, begun, kept⟩, now⟩ := either
    · exact ⟨events, last, [], rfl, begun, List.forall_mem_nil _⟩
    · refine ⟨past, event, later ++ [last], by simp, begun, ?_⟩
      exact List.forall_mem_append.mpr ⟨kept, List.forall_mem_singleton.mpr now⟩

/-- What a step establishes only by beginning it or by keeping it, a run has established since some event of it. -/
theorem since_of (machine : Machine σ ι ω) {holds : σ → Prop}
    (step : ∀ state input, holds (machine.step state input).2 →
      begins (machine.event state input) ∨ holds state ∧ keeps (machine.event state input))
    {state : σ} (absent : ¬ holds state) (inputs : List ι) (reached : holds (machine.final state inputs)) :
    Since begins keeps (machine.trace state inputs) := by
  induction inputs using List.reverseRecOn with
  | nil => exact absurd reached absent
  | append_singleton inputs input ih =>
    rw [final_snoc] at reached
    rw [trace_snoc, since_concat]
    exact (step _ input reached).imp_right fun before => ⟨ih before.1, before.2⟩

/-- A condition that one step decides from its event and from the condition before holds
after a run exactly when it has held since some event of it. -/
theorem since_iff (machine : Machine σ ι ω) {kept holds : σ → Prop}
    (keep : ∀ state input, kept state → kept (machine.step state input).2)
    (step : ∀ state input, kept state → (holds (machine.step state input).2 ↔
      begins (machine.event state input) ∨ holds state ∧ keeps (machine.event state input)))
    {state : σ} (initial : kept state) (absent : ¬ holds state) (inputs : List ι) :
    holds (machine.final state inputs) ↔ Since begins keeps (machine.trace state inputs) := by
  induction inputs using List.reverseRecOn with
  | nil => exact iff_of_false absent since_nil
  | append_singleton inputs input ih =>
    have reached := machine.final_preserves kept keep initial inputs
    rw [final_snoc, trace_snoc, since_concat, step _ input reached, ih]

end Machine
