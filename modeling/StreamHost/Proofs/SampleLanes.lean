import StreamHost.EffectSession

/-! Sessions that serve samples by kind. Each kind is a lane: a served poll takes the
first sample of its own lane, and no other call changes any lane. Over every run
a kind's polls then receive its lane from the front. -/

namespace StreamHost.Proofs.SampleLanes

variable {σ α : Type}

/-- What an event delivers to the polls of the kind. -/
def delivers (kind : String) (event : SessionEvent σ) : Option Expr :=
  match event.input, event.output with
  | .poll asked, .sample (.ok found) => if asked = kind then found else none
  | _, _ => none

def delivered (kind : String) (events : List (SessionEvent σ)) : List Expr := events.filterMap (delivers kind)

/-- A poll of the kind in a state that serves polls. -/
def asks (serves : σ → Bool) (kind : String) (event : SessionEvent σ) : Bool :=
  match event.input with
  | .poll asked => asked = kind && serves event.before
  | _ => false

def asked (serves : σ → Bool) (kind : String) (events : List (SessionEvent σ)) : Nat := events.countP (asks serves kind)

private theorem delivered_snoc (kind : String) (past : List (SessionEvent σ)) (event : SessionEvent σ) :
    delivered kind (past ++ [event]) = delivered kind past ++ (delivers kind event).toList := by
  rw [delivered, List.filterMap_append, ← delivered]
  cases found : delivers kind event <;> simp [found]

private theorem asked_snoc (serves : σ → Bool) (kind : String) (past : List (SessionEvent σ)) (event : SessionEvent σ) :
    asked serves kind (past ++ [event]) = asked serves kind past + if asks serves kind event then 1 else 0 := by
  rw [asked, List.countP_append, ← asked, List.countP_singleton]

/-- `lane` holds the samples of a kind that are left, and `render` is what a poll answers of one. -/
structure ServesLanes (session : EffectSession σ) (serves : σ → Bool) (lane : String → σ → List α) (render : α → Expr) :
    Prop where
  start : ∀ kind state, lane kind (session.start state).2 = lane kind state
  stop : ∀ kind state, lane kind (session.stop state).2 = lane kind state
  invoke : ∀ kind request state, lane kind (session.invoke request state).2 = lane kind state
  served : ∀ kind state, serves state = true → (session.poll kind state).1 = .ok ((lane kind state).head?.map render) ∧
    lane kind (session.poll kind state).2 = (lane kind state).tail
  others : ∀ kind other state, other ≠ kind → lane other (session.poll kind state).2 = lane other state
  refused : ∀ kind state, serves state = false → (∃ error, (session.poll kind state).1 = .error error) ∧
    (session.poll kind state).2 = state
  empty : ∀ kind state, lane kind state = [] → (session.poll kind state).2 = state

/-- The polls of a kind received its lane from the front, one sample each as long as there
were any, and left the rest. -/
structure FollowsLane (serves : σ → Bool) (render : α → Expr) (kind : String) (lane left : List α)
    (events : List (SessionEvent σ)) : Prop where
  delivered : delivered kind events = (lane.take (asked serves kind events)).map render
  answers : ∀ earlier event later, events = earlier ++ event :: later → event.input = .poll kind →
    serves event.before = true → event.output = .sample (.ok (lane[asked serves kind earlier]?.map render))
  left : left = lane.drop (asked serves kind events)

section Run
variable {session : EffectSession σ} {serves : σ → Bool} {lane : String → σ → List α}
  {render : α → Expr} (lanes : ServesLanes session serves lane render)
include lanes

/-- An event delivers the front of the lane when it asks for it, and else nothing. -/
theorem event_delivers (kind : String) (state : σ) (call : SessionCall) :
    let event := session.machine.event state call
    (asks serves kind event = true ∧ event.output = .sample (.ok ((lane kind state).head?.map render)) ∧
      delivers kind event = (lane kind state).head?.map render ∧ lane kind event.after = (lane kind state).tail) ∨
    (asks serves kind event = false ∧ delivers kind event = none ∧ lane kind event.after = lane kind state) := by
  cases call with
  | start => exact .inr ⟨rfl, rfl, lanes.start kind state⟩
  | stop => exact .inr ⟨rfl, rfl, lanes.stop kind state⟩
  | invoke request => exact .inr ⟨rfl, rfl, lanes.invoke kind request state⟩
  | poll polled =>
    have output : (session.machine.event state (.poll polled)).output = .sample (session.poll polled state).1 := rfl
    have after : (session.machine.event state (.poll polled)).after = (session.poll polled state).2 := rfl
    have input : (session.machine.event state (.poll polled)).input = .poll polled := rfl
    have before : (session.machine.event state (.poll polled)).before = state := rfl
    simp only [asks, delivers, input, output, after, before]
    by_cases same : polled = kind
    · subst same
      cases serving : serves state with
      | true =>
        obtain ⟨answer, rest⟩ := lanes.served polled state serving
        rw [answer]
        exact .inl ⟨by simp, rfl, if_pos rfl, rest⟩
      | false =>
        obtain ⟨⟨error, answer⟩, unchanged⟩ := lanes.refused polled state serving
        rw [answer, unchanged]
        exact .inr ⟨by simp, rfl, rfl⟩
    · refine .inr ⟨by simp [same], ?_, lanes.others polled kind state (Ne.symm same)⟩
      cases (session.poll polled state).1 with
      | error error => rfl
      | ok found => exact if_neg same

/-- After every run, the lane is what was delivered and what is left. -/
theorem run_taken (kind : String) (state : σ) (calls : List SessionCall) :
    delivered kind (session.machine.trace state calls) =
        ((lane kind state).take (asked serves kind (session.machine.trace state calls))).map render ∧
      lane kind (session.machine.final state calls) =
        (lane kind state).drop (asked serves kind (session.machine.trace state calls)) := by
  refine session.machine.history (fun past current =>
    delivered kind past = ((lane kind state).take (asked serves kind past)).map render ∧
      lane kind current = (lane kind state).drop (asked serves kind past)) ?_ ⟨rfl, rfl⟩ calls
  intro past current call ⟨taken, left⟩
  rw [delivered_snoc, asked_snoc, taken]
  rcases event_delivers lanes kind current call with ⟨asks, _, delivers, rest⟩ | ⟨idle, nothing, kept⟩
  · rw [asks, if_pos rfl, delivers, left, List.head?_drop, List.take_add_one, List.map_append, Option.toList_map]
    rw [left, List.tail_drop] at rest
    exact ⟨rfl, rest⟩
  · rw [idle, if_neg Bool.false_ne_true, nothing, Option.toList_none, List.append_nil]
    exact ⟨rfl, kept.trans left⟩

theorem run_follows (kind : String) (state : σ) (calls : List SessionCall) :
    FollowsLane serves render kind (lane kind state) (lane kind (session.machine.final state calls))
      (session.machine.trace state calls) := by
  obtain ⟨taken, left⟩ := run_taken lanes kind state calls
  refine ⟨taken, ?_, left⟩
  intro earlier event later split input serving
  obtain ⟨first, rfl, same⟩ := session.machine.trace_split split
  obtain ⟨_, remaining⟩ := run_taken lanes kind state first
  rw [input] at same
  rw [same] at serving
  rcases event_delivers lanes kind (session.machine.final state first) (.poll kind) with ⟨_, answer, _⟩ | ⟨idle, _⟩
  · rw [same, answer, remaining, List.head?_drop]
  · have asks : SampleLanes.asks serves kind (session.machine.event (session.machine.final state first) (.poll kind)) =
        (decide (kind = kind) && serves (session.machine.final state first)) := rfl
    have ready : serves (session.machine.final state first) = true := serving
    rw [asks, ready] at idle
    simp at idle

/-- Calls that ask for another kind, for nothing known or of a session that serves no
polls take nothing from the lane. -/
theorem event_keeps (kind : String) (state : σ) (call : SessionCall)
    (idle : asks serves kind (session.machine.event state call) = false) :
    lane kind (session.machine.event state call).after = lane kind state := by
  rcases event_delivers lanes kind state call with ⟨asks, _⟩ | ⟨_, _, kept⟩
  · cases idle.symm.trans asks
  · exact kept

/-- A refused poll fails and changes nothing, and neither does a poll of an empty lane change anything. -/
theorem poll_idle {state : σ} {calls : List SessionCall} {event : SessionEvent σ} {kind : String}
    (member : event ∈ session.machine.trace state calls) (polled : event.input = .poll kind) :
    (serves event.before = false → (∃ error, event.output = .sample (.error error)) ∧ event.after = event.before) ∧
      (lane kind event.before = [] → event.after = event.before) := by
  obtain ⟨earlier, _, _, same⟩ := session.machine.mem_trace.mp member
  rw [polled] at same
  subst same
  refine ⟨fun closed => ?_, fun none => lanes.empty kind _ none⟩
  obtain ⟨⟨error, answer⟩, unchanged⟩ := lanes.refused kind _ closed
  exact ⟨⟨error, congrArg SessionAnswer.sample answer⟩, unchanged⟩

end Run

end StreamHost.Proofs.SampleLanes
