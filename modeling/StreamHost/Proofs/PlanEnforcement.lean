import StreamHost.Model

/-! What enforcing an open plan does to a context: it needs the capabilities of the
plan and records its effects, or it needs a capability in vain and records nothing. -/

namespace StreamHost

variable {κ : Type}

/-- Requiring a capability only inspects what is held, and resolving an effect appends one record. -/
structure HostContext.Ledgers (context : HostContext κ) (held : κ → CapabilityName → Prop) (ledger : κ → List Effect) :
    Prop where
  require : ∀ {capability cx}, context.require capability cx = .ok () ↔ held cx capability
  freshHandle : ∀ cx, ledger (context.freshHandle cx).2 = ledger cx
  resolveEffect : ∀ {effect answer cx result after}, context.resolveEffect effect answer cx = (.ok result, after) →
    ledger after = ledger cx ++ [effect]

namespace HostOpenPlan

/-- The ledger has grown by one effect of each kind, in order, all of them this plan's. -/
def Recorded (plan : HostOpenPlan) (kinds : List Symbol) (before after : List Effect) : Prop :=
  ∃ effects : List Effect, after = before ++ effects ∧ effects.map Effect.kind = kinds ∧
    ∀ effect ∈ effects, effect = plan.effect effect.handle effect.kind

theorem Recorded.cons {plan : HostOpenPlan} {kind : Symbol} {kinds : List Symbol} {before after : List Effect}
    (handle : UInt64) (later : plan.Recorded kinds (before ++ [plan.effect handle kind]) after) :
    plan.Recorded (kind :: kinds) before after := by
  obtain ⟨effects, rfl, sameKinds, planned⟩ := later
  refine ⟨plan.effect handle kind :: effects, ?_, ?_, ?_⟩
  · rw [List.append_assoc, List.singleton_append]
  · rw [List.map_cons, sameKinds, effect]
  · exact List.forall_mem_cons.mpr ⟨rfl, planned⟩

/-- The effects of the first kinds are recorded, and the next one could not be resolved. -/
structure Unresolved (context : HostContext κ) (ledger : κ → List Effect) (plan : HostOpenPlan) (kinds : List Symbol)
    (before : κ) (error : Error) (after : κ) : Prop where
  stopped : ∃ earlier kind rest middle, kinds = earlier ++ kind :: rest ∧
    plan.Recorded earlier (ledger before) (ledger middle) ∧
    context.resolveEffect (plan.effect (context.freshHandle middle).1 kind) (.qualified "stream/host" "open-authorized")
      (context.freshHandle middle).2 = (.error error, after)

section Enforce
variable {context : HostContext κ} {held : κ → CapabilityName → Prop} {ledger : κ → List Effect}
  (laws : context.Ledgers held ledger) {plan : HostOpenPlan}
include laws

private theorem requireAll_ok_iff {capabilities : List CapabilityName} {cx : κ} :
    requireAll context capabilities cx = .ok () ↔ ∀ capability ∈ capabilities, held cx capability := by
  induction capabilities with
  | nil => exact iff_of_true rfl nofun
  | cons capability rest ih =>
    rw [List.forall_mem_cons, ← laws.require, ← ih, requireAll]
    cases context.require capability cx with
    | error error => exact iff_of_false nofun nofun
    | ok => exact (and_iff_right rfl).symm

private theorem resolveAll_records {kinds : List Symbol} {cx : κ} (resolved : (plan.resolveAll context kinds cx).1 = .ok ()) :
    plan.Recorded kinds (ledger cx) (ledger (plan.resolveAll context kinds cx).2) := by
  induction kinds generalizing cx with
  | nil => exact ⟨[], (List.append_nil _).symm, rfl, nofun⟩
  | cons kind rest ih =>
    simp only [resolveAll] at resolved ⊢
    rcases answered : context.resolveEffect (plan.effect (context.freshHandle cx).1 kind)
      (.qualified "stream/host" "open-authorized") (context.freshHandle cx).2 with ⟨error | result, after⟩
    · rw [answered] at resolved
      cases resolved
    · rw [answered] at resolved
      have later := ih resolved
      rw [laws.resolveEffect answered, laws.freshHandle] at later
      exact later.cons _

private theorem resolveAll_unresolved {kinds : List Symbol} {cx after : κ} {error : Error}
    (failed : plan.resolveAll context kinds cx = (.error error, after)) :
    plan.Unresolved context ledger kinds cx error after := by
  induction kinds generalizing cx with
  | nil => cases failed
  | cons kind rest ih =>
    simp only [resolveAll] at failed
    rcases answered : context.resolveEffect (plan.effect (context.freshHandle cx).1 kind)
      (.qualified "stream/host" "open-authorized") (context.freshHandle cx).2 with ⟨found | result, next⟩
    · rw [answered] at failed
      obtain ⟨same, rfl⟩ := Prod.mk.inj failed
      rw [Except.error.inj same] at answered
      exact ⟨[], kind, rest, cx, rfl, ⟨[], (List.append_nil _).symm, rfl, nofun⟩, answered⟩
    · rw [answered] at failed
      obtain ⟨earlier, last, later, middle, split, recorded, unresolved⟩ := ih failed
      rw [laws.resolveEffect answered, laws.freshHandle] at recorded
      exact ⟨kind :: earlier, last, later, middle, congrArg (kind :: ·) split, recorded.cons _, unresolved⟩

/-- An enforced plan was held in full and has recorded its effects. -/
theorem enforce_ok {cx : κ} (enforced : (plan.enforce context cx).1 = .ok ()) :
    (∀ capability ∈ plan.requires, held cx capability) ∧
      plan.Recorded plan.effectKinds (ledger cx) (ledger (plan.enforce context cx).2) := by
  unfold enforce at enforced ⊢
  cases required : requireAll context plan.requires cx with
  | error error =>
    rw [required] at enforced
    cases enforced
  | ok =>
    rw [required] at enforced
    exact ⟨(requireAll_ok_iff laws).mp required, resolveAll_records laws enforced⟩

/-- A plan with a capability that is not held is refused and records nothing. -/
theorem enforce_denied {cx : κ} {capability : CapabilityName} (needed : capability ∈ plan.requires)
    (missing : ¬ held cx capability) : ∃ error, plan.enforce context cx = (.error error, cx) := by
  unfold enforce
  cases required : requireAll context plan.requires cx with
  | error error => exact ⟨error, rfl⟩
  | ok => exact absurd ((requireAll_ok_iff laws).mp required capability needed) missing

/-- A plan that is held in full fails only by an effect that cannot be resolved. -/
theorem enforce_unresolved {cx after : κ} {error : Error} (authority : ∀ capability ∈ plan.requires, held cx capability)
    (failed : plan.enforce context cx = (.error error, after)) :
    plan.Unresolved context ledger plan.effectKinds cx error after := by
  rw [enforce, (requireAll_ok_iff laws).mpr authority] at failed
  exact resolveAll_unresolved laws failed

end Enforce

end HostOpenPlan

/-- A context that lists the capabilities it holds and the effects it has resolved. -/
def plainContext : HostContext (List CapabilityName × List Effect) where
  require capability cx := if capability ∈ cx.1 then .ok () else .error (.capabilityDenied capability)
  freshHandle cx := (.ofNat cx.2.length, cx)
  resolveEffect effect answer cx := (.ok answer, cx.1, cx.2 ++ [effect])

theorem plainContext_ledgers : plainContext.Ledgers (fun cx capability => capability ∈ cx.1) Prod.snd where
  require := by
    intro capability cx
    simp only [plainContext]
    split <;> simp_all
  freshHandle _ := rfl
  resolveEffect := by
    rintro effect answer cx result after ⟨⟩
    rfl

end StreamHost
