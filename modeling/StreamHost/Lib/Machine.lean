import Mathlib.Algebra.Order.Ring.Int
import Mathlib.Data.List.Induction

/-! Runs of a deterministic component. A machine answers every call and moves to
its next state; a run records each call with the state on either side of it.
Laws of one step become laws of a whole run here, once for every component. -/

universe u v w x

/-- A deterministic component: each call yields an answer and the next state. -/
structure Machine (σ : Type u) (ι : Type v) (ω : Type w) where
  step : σ → ι → ω × σ

structure Machine.Event (σ : Type u) (ι : Type v) (ω : Type w) where
  before : σ
  input : ι
  output : ω
  after : σ

/-- The same event, of a component that the states contain. -/
def Machine.Event.onState {σ : Type u} {ι : Type v} {ω : Type w} {τ : Type x} (part : σ → τ) (event : Event σ ι ω) :
    Event τ ι ω :=
  ⟨part event.before, event.input, event.output, part event.after⟩

/-- A client calls a component, each call chosen by the answers before it, and is done in the end. -/
inductive Machine.Client (ι : Type v) (ω : Type w) (α : Type x) where
  | done (result : α)
  | call (input : ι) (next : ω → Client ι ω α)

namespace Machine
variable {σ : Type u} {ι : Type v} {ω : Type w} {τ : Type x} (machine : Machine σ ι ω)

def event (state : σ) (input : ι) : Event σ ι ω :=
  ⟨state, input, (machine.step state input).1, (machine.step state input).2⟩

theorem event_output (state : σ) (input : ι) :
    (machine.event state input).output = (machine.step state input).1 := rfl

def trace : σ → List ι → List (Event σ ι ω)
  | _, [] => []
  | state, input :: rest => machine.event state input :: trace (machine.step state input).2 rest

def final : σ → List ι → σ
  | state, [] => state
  | state, input :: rest => final (machine.step state input).2 rest

theorem trace_cons (state : σ) (input : ι) (rest : List ι) :
    machine.trace state (input :: rest) =
      machine.event state input :: machine.trace (machine.step state input).2 rest := rfl

theorem final_append (state : σ) (first last : List ι) :
    machine.final state (first ++ last) = machine.final (machine.final state first) last := by
  induction first generalizing state with
  | nil => rfl
  | cons input rest ih => exact ih _

theorem trace_append (state : σ) (first last : List ι) :
    machine.trace state (first ++ last) =
      machine.trace state first ++ machine.trace (machine.final state first) last := by
  induction first generalizing state with
  | nil => rfl
  | cons input rest ih => exact congrArg _ (ih _)

theorem final_snoc (state : σ) (inputs : List ι) (input : ι) :
    machine.final state (inputs ++ [input]) = (machine.step (machine.final state inputs) input).2 :=
  machine.final_append state inputs [input]

theorem trace_snoc (state : σ) (inputs : List ι) (input : ι) :
    machine.trace state (inputs ++ [input]) =
      machine.trace state inputs ++ [machine.event (machine.final state inputs) input] :=
  machine.trace_append state inputs [input]

/-- An assertion kept by every step is kept by every run. -/
theorem final_preserves (kept : σ → Prop)
    (step : ∀ state input, kept state → kept (machine.step state input).2)
    {state : σ} (initial : kept state) (inputs : List ι) : kept (machine.final state inputs) := by
  induction inputs generalizing state with
  | nil => exact initial
  | cons input rest ih => exact ih (step state input initial)

/-- An assertion about the events so far and the current state, extended by
every step, holds of every run with its own history. -/
theorem history (assertion : List (Event σ ι ω) → σ → Prop)
    (step : ∀ past state input, assertion past state →
      assertion (past ++ [machine.event state input]) (machine.step state input).2)
    {state : σ} (initial : assertion [] state) (inputs : List ι) :
    assertion (machine.trace state inputs) (machine.final state inputs) := by
  induction inputs using List.reverseRecOn with
  | nil => exact initial
  | append_singleton inputs input ih =>
    rw [trace_snoc, final_snoc]
    exact step _ _ input ih

theorem mem_trace {state : σ} {inputs : List ι} {event : Event σ ι ω} :
    event ∈ machine.trace state inputs ↔ ∃ earlier later, inputs = earlier ++ event.input :: later ∧
      event = machine.event (machine.final state earlier) event.input := by
  constructor
  · intro member
    induction inputs generalizing state with
    | nil => cases member
    | cons input rest ih =>
      rcases List.mem_cons.mp member with rfl | member
      · exact ⟨[], rest, rfl, rfl⟩
      · obtain ⟨earlier, later, split, same⟩ := ih member
        exact ⟨input :: earlier, later, congrArg (input :: ·) split, same⟩
  · rintro ⟨earlier, later, split, same⟩
    rw [split, trace_append, trace_cons, ← same]
    simp

/-- A run split at one event is a run up to it, its step, and a run from there. -/
theorem trace_split {state : σ} {inputs : List ι} {past later : List (Event σ ι ω)} {event : Event σ ι ω}
    (split : machine.trace state inputs = past ++ event :: later) :
    ∃ earlier, past = machine.trace state earlier ∧
      event = machine.event (machine.final state earlier) event.input := by
  induction past generalizing state inputs with
  | nil =>
    cases inputs with
    | nil => cases split
    | cons input rest =>
      obtain ⟨rfl, _⟩ := List.cons.inj split
      exact ⟨[], rfl, rfl⟩
  | cons head past ih =>
    cases inputs with
    | nil => cases split
    | cons input rest =>
      obtain ⟨rfl, tail⟩ := List.cons.inj split
      obtain ⟨earlier, same, last⟩ := ih tail
      exact ⟨input :: earlier, congrArg _ same, last⟩

theorem trace_rest {state : σ} {inputs : List ι} {past later : List (Event σ ι ω)} {event : Event σ ι ω}
    (split : machine.trace state inputs = past ++ event :: later) :
    ∃ rest, later = machine.trace event.after rest := by
  induction past generalizing state inputs with
  | nil =>
    cases inputs with
    | nil => cases split
    | cons input rest =>
      obtain ⟨rfl, rfl⟩ := List.cons.inj split
      exact ⟨rest, rfl⟩
  | cons head past ih =>
    cases inputs with
    | nil => cases split
    | cons input rest => exact ih (List.cons.inj split).2

/-- Of two events of a run, the later one is the step from a state reached after
the earlier one. -/
theorem trace_split_later {state : σ} {inputs : List ι} {past between later : List (Event σ ι ω)}
    {first second : Event σ ι ω}
    (split : machine.trace state inputs = past ++ first :: (between ++ second :: later)) :
    ∃ calls, second = machine.event (machine.final first.after calls) second.input := by
  obtain ⟨rest, following⟩ := machine.trace_rest split
  obtain ⟨calls, _, same⟩ := machine.trace_split following.symm
  exact ⟨calls, same⟩

theorem trace_forall (kept : σ → Prop) (law : Event σ ι ω → Prop)
    (step : ∀ state input, kept state → kept (machine.step state input).2)
    (lawful : ∀ state input, kept state → law (machine.event state input))
    {state : σ} (initial : kept state) (inputs : List ι) :
    ∀ event ∈ machine.trace state inputs, law event := by
  intro event member
  obtain ⟨earlier, _, _, same⟩ := machine.mem_trace.mp member
  rw [same]
  exact lawful _ _ (machine.final_preserves kept step initial earlier)

theorem trace_forall_iff (kept : σ → Prop) (first second : Event σ ι ω → Prop)
    (agree : ∀ state input, kept state → (first (machine.event state input) ↔ second (machine.event state input)))
    (keeps : ∀ state input, kept state → first (machine.event state input) → kept (machine.step state input).2)
    {state : σ} (initial : kept state) (inputs : List ι) :
    (∀ event ∈ machine.trace state inputs, first event) ↔ ∀ event ∈ machine.trace state inputs, second event := by
  induction inputs generalizing state with
  | nil => exact ⟨nofun, nofun⟩
  | cons input rest ih =>
    rw [trace_cons, List.forall_mem_cons, List.forall_mem_cons, ← agree state input initial]
    exact and_congr_right fun holds => ih (keeps state input initial holds)

section Client
variable {α : Type x}

def Client.run : Client ι ω α → σ → α × σ
  | .done result, state => (result, state)
  | .call input next, state => (next (machine.step state input).1).run (machine.step state input).2

/-- The calls that the client comes to make. -/
def Client.calls : Client ι ω α → σ → List ι
  | .done _, _ => []
  | .call input next, state => input :: (next (machine.step state input).1).calls (machine.step state input).2

theorem Client.run_final (client : Client ι ω α) (state : σ) :
    (client.run machine state).2 = machine.final state (client.calls machine state) := by
  induction client generalizing state with
  | done => rfl
  | call input next ih => exact ih _ _

end Client

def outputs (state : σ) (inputs : List ι) : List ω :=
  (machine.trace state inputs).map Event.output

/-- A forward simulation that keeps the answers: related states answer every
call alike and stay related. -/
structure Simulates (concrete : Machine σ ι ω) (abstract : Machine τ ι ω) (related : σ → τ → Prop) : Prop where
  answers : ∀ {state model} input, related state model →
    (concrete.step state input).1 = (abstract.step model input).1
  moves : ∀ {state model} input, related state model →
    related (concrete.step state input).2 (abstract.step model input).2

variable {machine} {abstract : Machine τ ι ω} {related : σ → τ → Prop}

theorem Simulates.final (simulates : Simulates machine abstract related) {state : σ} {model : τ}
    (initial : related state model) (inputs : List ι) :
    related (machine.final state inputs) (abstract.final model inputs) := by
  induction inputs generalizing state model with
  | nil => exact initial
  | cons input rest ih => exact ih (simulates.moves input initial)

theorem Simulates.outputs (simulates : Simulates machine abstract related) {state : σ} {model : τ}
    (initial : related state model) (inputs : List ι) :
    machine.outputs state inputs = abstract.outputs model inputs := by
  induction inputs generalizing state model with
  | nil => rfl
  | cons input rest ih =>
    have later := ih (simulates.moves input initial)
    simp only [Machine.outputs, trace_cons, List.map_cons, event_output, simulates.answers input initial] at later ⊢
    exact congrArg _ later

end Machine
