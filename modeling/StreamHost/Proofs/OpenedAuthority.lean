import StreamHost.OpenedSession
import StreamHost.Proofs.TypedPolling

/-! The authority of a session is fixed when its provider is opened. Sessions opened for
observation never reach an effect, and on the others the provider's own descriptor
decides about every request. -/

namespace StreamHost.Proofs.OpenedAuthority

abbrev OpenedEvent := Machine.Event OpenedSession SessionCall (Option SessionAnswer)

/-- A call of a session with this effect descriptor, if any, and this profile. Without a
descriptor there is no effect surface; with one, requests it does not authorize change
nothing, and receipts name it and answer authorized requests. -/
structure Warranted (debugLen : Expr → Nat) (granted : Option EffectDescriptor) (profile : DeviceProfile)
    (event : OpenedEvent) : Prop where
  profile : event.after.profile = profile
  surface : event.output = none ↔ granted = none ∧ ∃ request, event.input = .invoke request
  refuses : ∀ request, event.input = .invoke request →
    (∀ descriptor ∈ granted, descriptor.authorize debugLen request ≠ .ok ()) → event.after = event.before
  issues : ∀ receipt, event.output = some (.receipt (.ok receipt)) → ∃ request descriptor,
    event.input = .invoke request ∧ granted = some descriptor ∧ descriptor.Authorized debugLen request ∧
      receipt.kind = descriptor.receipt ∧ receipt.descriptor = descriptor.id

variable {σ : Type} {debugLen : Expr → Nat}

/-- Observing leaves the profile as it is. -/
structure Steady (session : ObservationSession σ) : Prop where
  start : ∀ state, session.profile (session.start state).2 = session.profile state
  poll : ∀ kind state, session.profile (session.poll kind state).2 = session.profile state
  stop : ∀ state, session.profile (session.stop state).2 = session.profile state

/-- An effect surface behind one descriptor. -/
structure Guarded (debugLen : Expr → Nat) (descriptor : EffectDescriptor) (session : EffectSession σ) : Prop where
  steady : Steady session.toObservationSession
  refuses : ∀ request state error, descriptor.authorize debugLen request = .error error →
    session.invoke request state = (.error error, state)
  invokes : ∀ request state, session.profile (session.invoke request state).2 = session.profile state ∧
    ∀ receipt, (session.invoke request state).1 = .ok receipt →
      receipt.kind = descriptor.receipt ∧ receipt.descriptor = descriptor.id

section Events

def asks : SessionCall → Bool
  | .invoke _ => true
  | _ => false

/-- Observations are always answered, and never by a receipt. -/
theorem observation_answer (opened : OpenedSession) {call : SessionCall} (quiet : asks call = false) :
    ∃ answer, (OpenedSession.machine.event opened call).output = some answer ∧ answer.acknowledged = none := by
  cases call with
  | start => cases opened <;> exact ⟨_, rfl, rfl⟩
  | poll kind => cases opened <;> exact ⟨_, rfl, rfl⟩
  | stop => cases opened <;> exact ⟨_, rfl, rfl⟩
  | invoke request => cases quiet

private theorem warranted_quiet {granted : Option EffectDescriptor} {profile : DeviceProfile} (opened : OpenedSession)
    {call : SessionCall} (quiet : asks call = false) (kept : (OpenedSession.machine.step opened call).2.profile = profile) :
    Warranted debugLen granted profile (OpenedSession.machine.event opened call) := by
  obtain ⟨answer, answered, silent⟩ := observation_answer opened quiet
  constructor
  · exact kept
  · apply iff_of_false
    · rw [answered]
      exact Option.some_ne_none answer
    · intro both
      obtain ⟨_, request, rfl⟩ := both
      cases quiet
  · intro request asked
    obtain rfl : call = .invoke request := asked
    cases quiet
  · intro receipt issued
    obtain rfl := Option.some.inj (answered.symm.trans issued)
    cases silent

private theorem observed_warranted {session : ObservationSession σ} (steady : Steady session) (state : σ) (call : SessionCall) :
    Warranted debugLen none (session.profile state) (OpenedSession.machine.event (.observe session state) call) := by
  cases call with
  | start => exact warranted_quiet _ rfl (steady.start state)
  | poll kind => exact warranted_quiet _ rfl (steady.poll kind state)
  | stop => exact warranted_quiet _ rfl (steady.stop state)
  | invoke request =>
    constructor
    · rfl
    · exact iff_of_true rfl ⟨rfl, request, rfl⟩
    · intro _ _ _
      rfl
    · intro receipt issued
      cases issued

private theorem effect_warranted {descriptor : EffectDescriptor} {session : EffectSession σ}
    (guarded : Guarded debugLen descriptor session) (state : σ) (call : SessionCall) :
    Warranted debugLen (some descriptor) (session.profile state) (OpenedSession.machine.event (.effect session state) call) := by
  cases call with
  | start => exact warranted_quiet _ rfl (guarded.steady.start state)
  | poll kind => exact warranted_quiet _ rfl (guarded.steady.poll kind state)
  | stop => exact warranted_quiet _ rfl (guarded.steady.stop state)
  | invoke request =>
    constructor
    · exact (guarded.invokes request state).1
    · apply iff_of_false
      · exact Option.some_ne_none _
      · intro both
        cases both.1
    · intro other asked unauthorized
      obtain rfl := SessionCall.invoke.inj asked
      have denied := unauthorized descriptor rfl
      cases authorized : descriptor.authorize debugLen request with
      | ok _ => exact absurd authorized denied
      | error error =>
        change OpenedSession.effect session (session.invoke request state).2 = .effect session state
        rw [guarded.refuses request state error authorized]
    · intro receipt issued
      have answered : (session.invoke request state).1 = .ok receipt := SessionAnswer.receipt.inj (Option.some.inj issued)
      cases authorized : descriptor.authorize debugLen request with
      | ok _ =>
        exact ⟨request, descriptor, rfl, rfl, EffectDescriptor.authorize_ok authorized,
          (guarded.invokes request state).2 receipt answered⟩
      | error error =>
        rw [guarded.refuses request state error authorized] at answered
        cases answered

end Events

section Runs

/-- What holds of each call on sessions of one kind, that stay of this kind, holds in every run. -/
theorem warranted_run {granted : Option EffectDescriptor} (wrap : σ → OpenedSession)
    (stays : ∀ state call, ∃ next, (OpenedSession.machine.step (wrap state) call).2 = wrap next)
    (warranted : ∀ state call, Warranted debugLen granted (wrap state).profile (OpenedSession.machine.event (wrap state) call))
    (state : σ) (calls : List SessionCall) :
    ∀ event ∈ OpenedSession.machine.trace (wrap state) calls, Warranted debugLen granted (wrap state).profile event := by
  apply Machine.trace_forall _ (fun opened => ∃ now, opened = wrap now ∧ opened.profile = (wrap state).profile)
  · intro opened call behind
    obtain ⟨now, rfl, same⟩ := behind
    obtain ⟨next, moved⟩ := stays now call
    exact ⟨next, moved, (warranted now call).profile.trans same⟩
  · intro opened call behind
    obtain ⟨now, rfl, same⟩ := behind
    rw [← same]
    exact warranted now call
  · exact ⟨state, rfl, rfl⟩

private theorem observed_run {session : ObservationSession σ} (steady : Steady session) (state : σ) (calls : List SessionCall) :
    ∀ event ∈ OpenedSession.machine.trace (.observe session state) calls,
      Warranted debugLen none (session.profile state) event := by
  apply warranted_run (OpenedSession.observe session)
  · intro now call
    cases call <;> exact ⟨_, rfl⟩
  · exact observed_warranted steady

private theorem effect_run {descriptor : EffectDescriptor} {session : EffectSession σ} (guarded : Guarded debugLen descriptor session)
    (state : σ) (calls : List SessionCall) :
    ∀ event ∈ OpenedSession.machine.trace (.effect session state) calls,
      Warranted debugLen (some descriptor) (session.profile state) event := by
  apply warranted_run (OpenedSession.effect session)
  · intro now call
    cases call <;> exact ⟨_, rfl⟩
  · exact effect_warranted guarded

end Runs

section Providers
open Wristbridge Viture Halo

private theorem watch_steady (debugLen : Expr → Nat) (access : Access) :
    Steady (WatchSession.session debugLen access).toObservationSession where
  start _ := rfl
  poll kind state := by
    change (state.poll kind).2.profile = state.profile
    unfold WatchSession.poll
    split <;> rfl
  stop _ := rfl

private theorem watch_guarded (debugLen : Expr → Nat) (access : Access) :
    Guarded debugLen WatchSession.descriptor (WatchSession.session debugLen access) where
  steady := watch_steady debugLen access
  refuses request state error denied := by
    change state.invoke debugLen access request = _
    rw [WatchSession.invoke, denied]
  invokes request state := by
    change (state.invoke debugLen access request).2.profile = state.profile ∧
      ∀ receipt, (state.invoke debugLen access request).1 = .ok receipt → _
    unfold WatchSession.invoke
    split
    · exact ⟨rfl, fun receipt issued => by cases issued⟩
    split
    · exact ⟨rfl, fun receipt issued => by cases issued⟩
    · exact ⟨rfl, fun receipt issued => by cases issued; exact ⟨rfl, rfl⟩⟩

private theorem halo_steady (externals : HaloExternals) : Steady (HaloSession.session externals).toObservationSession where
  start _ := rfl
  poll kind state := by
    change (state.poll externals kind).2.profile = state.profile
    unfold HaloSession.poll
    split
    · rfl
    split <;> rfl
  stop _ := rfl

private theorem halo_guarded (externals : HaloExternals) :
    Guarded externals.debugLen HaloSession.descriptor (HaloSession.session externals) where
  steady := halo_steady externals
  refuses request state error denied := by
    change state.invoke externals request = _
    rw [HaloSession.invoke, denied]
  invokes request state := by
    change (state.invoke externals request).2.profile = state.profile ∧
      ∀ receipt, (state.invoke externals request).1 = .ok receipt → _
    unfold HaloSession.invoke
    split
    · exact ⟨rfl, fun receipt issued => by cases issued⟩
    split
    · exact ⟨rfl, fun receipt issued => by cases issued⟩
    split
    · exact ⟨rfl, fun receipt issued => by cases issued⟩
    dsimp only
    split
    · exact ⟨rfl, fun receipt issued => by cases issued⟩
    · exact ⟨rfl, fun receipt issued => by cases issued; exact ⟨rfl, rfl⟩⟩

private theorem viture_steady {ρ : Type} (externals : VitureExternals) (physical : DevicePhysicalSession ρ) :
    Steady (VitureSession.session externals physical).toObservationSession where
  start state := by
    change (state.start physical).2.profile = state.profile
    unfold VitureSession.start
    split <;> rfl
  poll kind state := by
    change (state.poll externals physical kind).2.profile = state.profile
    unfold VitureSession.poll
    split
    · rfl
    split
    · split
      · rfl
      split
      · rfl
      · split <;> rfl
      · rfl
    · split
      · rfl
      split <;> rfl
    · split <;> rfl
  stop state := by
    change (state.stop physical).2.profile = state.profile
    unfold VitureSession.stop
    split <;> rfl

private theorem viture_guarded {ρ : Type} (externals : VitureExternals) (physical : DevicePhysicalSession ρ) :
    Guarded externals.debugLen VitureSession.descriptor (VitureSession.session externals physical) where
  steady := viture_steady externals physical
  refuses request state error denied := by
    change state.invoke externals physical request = _
    rw [VitureSession.invoke, denied]
  invokes request state := by
    change (state.invoke externals physical request).2.profile = state.profile ∧
      ∀ receipt, (state.invoke externals physical request).1 = .ok receipt → _
    unfold VitureSession.invoke
    split
    · exact ⟨rfl, fun receipt issued => by cases issued⟩
    split
    · exact ⟨rfl, fun receipt issued => by cases issued⟩
    split
    · exact ⟨rfl, fun receipt issued => by cases issued⟩
    · exact ⟨rfl, fun receipt issued => by cases issued; exact ⟨rfl, rfl⟩⟩

/-- The descriptor behind the effect surface of a provider's sessions. -/
def effectDescriptor {π : Type} : SessionProvider π → Option EffectDescriptor
  | .stub _ | .cassette _ => none
  | .watch _ => some WatchSession.descriptor
  | .halo _ => some HaloSession.descriptor
  | .viture _ => some VitureSession.descriptor

private theorem cassette_steady : Steady ObservationCassetteSession.session := ⟨fun _ => rfl, fun _ _ => rfl, fun _ => rfl⟩

/-- What a provider opens: a session under its profile, on the surface it grants. -/
inductive Opens {π : Type} (debugLen : Expr → Nat) (provider : SessionProvider π) : OpenedSession → Prop where
  | observe {σ : Type} {session : ObservationSession σ} {state : σ} (steady : Steady session)
      (ungranted : effectDescriptor provider = none) (own : session.profile state = provider.profile) :
      Opens debugLen provider (.observe session state)
  | effect {σ : Type} {session : EffectSession σ} {state : σ} {descriptor : EffectDescriptor}
      (guarded : Guarded debugLen descriptor session) (granted : effectDescriptor provider = some descriptor)
      (own : session.profile state = provider.profile) : Opens debugLen provider (.effect session state)

private theorem halo_profile {symbols : SampleSymbols} {provider : HaloProvider} {session : HaloSession}
    (opened : provider.openSession symbols = .ok session) : session.profile = provider.profile := by
  simp only [HaloProvider.openSession, Except.bind_eq_ok] at opened
  obtain ⟨_, _, _, _, made⟩ := opened
  cases made
  rfl

private theorem viture_profile {π ρ : Type} {externals : VitureExternals} {connect : π → Except VitureError ρ}
    {provider : VitureProvider π} {session : VitureSession ρ} (opened : provider.openSession externals connect = .ok session) :
    session.profile = provider.profile := by
  unfold VitureProvider.openSession at opened
  split at opened
  · cases opened
  · obtain ⟨_, _, made⟩ := Except.bind_eq_ok.mp opened
    cases made
    rfl
  · obtain ⟨_, _, started⟩ := Except.bind_eq_ok.mp opened
    obtain ⟨_, _, made⟩ := Except.bind_eq_ok.mp started
    cases made
    rfl
  · cases opened
    rfl

variable {π ρ : Type}

private theorem map_opened {α : Type} {result : DeviceResult α} {wrap : α → OpenedSession} {opened : OpenedSession}
    (accepted : Except.map wrap result = .ok opened) : ∃ session, result = .ok session ∧ wrap session = opened := by
  cases result with
  | error error => cases accepted
  | ok session => exact ⟨session, rfl, Except.ok.inj accepted⟩

private theorem openSession_opens (externals : DeviceExternals π ρ) {provider : SessionProvider π} {opened : OpenedSession}
    (accepted : provider.openSession externals = .ok opened) : Opens externals.debugLen provider opened := by
  cases provider with
  | stub provider => cases accepted
  | cassette provider =>
    cases accepted
    exact .observe cassette_steady rfl rfl
  | watch provider =>
    obtain ⟨session, found, rfl⟩ := map_opened accepted
    obtain ⟨_, _, _, rfl⟩ := TypedPolling.openSession_feed found
    exact .effect (watch_guarded externals.debugLen externals.access) rfl rfl
  | halo provider =>
    obtain ⟨session, found, rfl⟩ := map_opened accepted
    exact .effect (externals.haloRenders ▸ halo_guarded externals.halo) rfl (halo_profile found)
  | viture provider =>
    obtain ⟨session, found, rfl⟩ := map_opened accepted
    exact .effect (externals.vitureRenders ▸ viture_guarded externals.viture externals.physical) rfl (viture_profile found)

/-- Whatever provider is opened and whatever is then asked of the session, no receipt is issued but
for a request that the provider's own descriptor authorizes, and requests it does not authorize
change nothing. A session opened for observation has no effect surface in any state it reaches. -/
theorem authority_fixed_at_open (externals : DeviceExternals π ρ) {provider : SessionProvider π} {opened : OpenedSession}
    (accepted : provider.openSession externals = .ok opened) (calls : List SessionCall) :
    opened.profile = provider.profile ∧ ∀ event ∈ OpenedSession.machine.trace opened calls,
      Warranted externals.debugLen (effectDescriptor provider) provider.profile event := by
  cases openSession_opens externals accepted with
  | observe steady ungranted own =>
    rw [ungranted, ← own]
    exact ⟨rfl, observed_run steady _ calls⟩
  | effect guarded granted own =>
    rw [granted, ← own]
    exact ⟨rfl, effect_run guarded _ calls⟩

def idleGlasses : DevicePhysicalSession Unit := ⟨fun state => (.ok (), state), fun state => (.ok none, state),
  fun _ state => (.ok (), state), fun state => (.ok (), state)⟩

def plainDevices : DeviceExternals Unit Unit where
  debugLen _ := 5
  build := plainTextBuild
  access := plainAccess
  halo := ⟨fun _ => 5, fun _ => .error (.eval "not a glance card"), plainAccess.errorText, plainBuild,
    ⟨.new "record", .new, .new "halo"⟩⟩
  viture := ⟨fun _ => 5, plainAccess, fun _ => none, fun seq _ _ _ _ dof _ => .ok ⟨seq, dof, false, .nil⟩⟩
  physical := idleGlasses
  connect state := .ok state
  haloRenders := rfl
  vitureRenders := rfl

def oneSample : SessionProvider Unit := .cassette ⟨noProfile, [.bool true]⟩

def escalation : List SessionCall :=
  [.start, .invoke (WatchSession.descriptor.armedRequest .nil "key" 1 2), .poll "fixture"]

theorem cassette_cannot_escalate : ∃ opened, oneSample.openSession plainDevices = .ok opened ∧
    opened.profile = noProfile ∧
    ∀ event ∈ OpenedSession.machine.trace opened escalation, Warranted (fun _ => 5) none noProfile event := by
  have accepted : oneSample.openSession plainDevices = .ok _ := rfl
  exact ⟨_, rfl, authority_fixed_at_open plainDevices accepted escalation⟩

end Providers

end StreamHost.Proofs.OpenedAuthority
