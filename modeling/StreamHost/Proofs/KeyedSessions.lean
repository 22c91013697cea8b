import StreamHost.Proofs.EffectLedger
import StreamHost.Proofs.HaloDisplay
import StreamHost.Viture.Provider
import StreamHost.Wristbridge.Session

/-! What the sessions do with the caller key of an acknowledged effect when the
same effect is asked for again. The fake session answers it from its stored
receipts; the device sessions keep no receipts. -/

namespace StreamHost.Proofs.KeyedSessions
open Halo Viture Wristbridge

variable {σ α π : Type}

/-- Two acknowledged calls for one effect under one caller key, with one payload. -/
structure Repeats (first second : SessionEvent σ) (request again : EffectRequest)
    (receipt repeated : EffectReceipt) : Prop where
  asked : first.input = .invoke request
  answered : first.output = .receipt (.ok receipt)
  askedAgain : second.input = .invoke again
  answeredAgain : second.output = .receipt (.ok repeated)
  keyed : blank request.idempotenceKey = false
  sameEffect : again.descriptor = request.descriptor
  sameKey : again.idempotenceKey = request.idempotenceKey
  samePayload : again.payload = request.payload

def KeyedRepeat (first second : SessionEvent σ) : Prop :=
  ∃ request again receipt repeated, Repeats first second request again receipt repeated

/-- The second call has no effects and is answered as the first one was. -/
structure Deduplicated (effects : σ → α) (first second : SessionEvent σ) : Prop where
  silent : effects second.after = effects second.before
  replayed : second.output = first.output

def EveryRepeat (session : EffectSession σ) (state : σ) (law : SessionEvent σ → SessionEvent σ → Prop) : Prop :=
  ∀ calls past first between second later,
    session.machine.trace state calls = past ++ first :: (between ++ second :: later) → KeyedRepeat first second →
    law first second

def Deduplicates (session : EffectSession σ) (state : σ) (effects : σ → α) : Prop :=
  EveryRepeat session state (Deduplicated effects)

def EachAcknowledged (session : EffectSession σ) (law : EffectRequest → σ → σ → Prop) : Prop :=
  ∀ request state receipt, (session.invoke request state).1 = .ok receipt →
    law request state (session.invoke request state).2

theorem EachAcknowledged.repeats {session : EffectSession σ} {law : EffectRequest → σ → σ → Prop}
    (each : EachAcknowledged session law) (state : σ) : EveryRepeat session state fun _ second =>
      ∃ request, second.input = .invoke request ∧ law request second.before second.after := by
  rintro calls past first between second later split ⟨request, again, receipt, repeated, repeats⟩
  obtain ⟨rest, same⟩ := session.machine.trace_split_later split
  have answered := repeats.answeredAgain
  rw [same, repeats.askedAgain] at answered ⊢
  exact ⟨again, rfl, each again _ repeated (SessionAnswer.receipt.inj answered)⟩

def SendsOne (sent : σ → List π) (before after : σ) : Prop := ∃ packet, sent after = sent before ++ [packet]

private theorem SendsOne.not_silent {sent : σ → List π} {before after : σ} (sends : SendsOne sent before after) :
    sent after ≠ sent before := by
  obtain ⟨packet, grown⟩ := sends
  intro silent
  have lengths := congrArg List.length (grown.symm.trans silent)
  rw [List.length_append, List.length_singleton] at lengths
  omega

open FakeEffectSession in
/-- A request whose key has a stored receipt is answered with it, if at all. -/
theorem fake_replays {debugLen : Expr → Nat} {session : FakeEffectSession} {request : EffectRequest}
    {receipt repeated : EffectReceipt} (stored : session.replay request = some receipt)
    (answered : (session.invoke debugLen request).1 = .ok repeated) :
    repeated = receipt ∧ SameLedger session (session.invoke debugLen request).2 := by
  have outcome := invoke_outcome debugLen session request
  generalize session.invoke debugLen request = result at *
  cases outcome with
  | refused | exhausted => cases answered
  | replayed admitted left found =>
    cases answered
    exact ⟨Option.some.inj (found.symm.trans stored), .touch session _⟩
  | executed admitted left unused => cases unused.symm.trans stored

/-- The reference behaviour: the fake session deduplicates keyed effects. -/
theorem fake_deduplicates (debugLen : Expr → Nat) (state : FakeEffectSession) :
    Deduplicates (FakeEffectSession.session debugLen) state fun session => (session.sequence, session.receipts) := by
  rintro calls past first between second later split ⟨request, again, receipt, repeated, repeats⟩
  obtain ⟨before, _, same⟩ := (FakeEffectSession.machine debugLen).trace_split split
  obtain ⟨rest, sameLater⟩ := (FakeEffectSession.machine debugLen).trace_split_later split
  rw [repeats.asked] at same
  rw [repeats.askedAgain] at sameLater
  have answered := repeats.answered
  rw [same] at answered
  have stored := FakeEffectSession.acknowledged_stored repeats.keyed
    (Prod.ext (SessionAnswer.receipt.inj answered) rfl)
  have kept : ((FakeEffectSession.machine debugLen).final first.after rest).replay again = some receipt := by
    obtain ⟨key, used, found⟩ := Option.bind_eq_some_iff.mp stored
    rw [FakeEffectSession.replay, repeats.sameKey, used, Option.bind_some, same]
    exact FakeEffectSession.final_extends debugLen _ rest key receipt found
  have answeredAgain := repeats.answeredAgain
  rw [sameLater] at answeredAgain
  obtain ⟨rfl, ledger⟩ := fake_replays kept (SessionAnswer.receipt.inj answeredAgain)
  refine ⟨?_, repeats.answeredAgain.trans repeats.answered.symm⟩
  rw [sameLater]
  exact Prod.ext ledger.sequence ledger.receipts

private theorem watch_sends (debugLen : Expr → Nat) (access : Access) :
    EachAcknowledged (WatchSession.session debugLen access) fun _ => SendsOne WatchSession.sent := by
  intro request state receipt answered
  change (state.invoke debugLen access request).1 = _ at answered
  change SendsOne _ _ (state.invoke debugLen access request).2
  unfold WatchSession.invoke at answered ⊢
  split at answered
  · cases answered
  split at answered
  · cases answered
  · exact ⟨_, rfl⟩

private theorem halo_sends (externals : HaloExternals) :
    EachAcknowledged (HaloSession.session externals) fun _ => SendsOne HaloSession.sent := by
  intro request state receipt answered
  have outcome := HaloSession.invoke_outcome externals state request
  change (state.invoke externals request).1 = _ at answered
  change SendsOne _ _ (state.invoke externals request).2
  generalize state.invoke externals request = result at *
  cases outcome with
  | refused => cases answered
  | sent => exact ⟨_, rfl⟩

section Viture
variable {ρ : Type} (externals : VitureExternals) (physical : DevicePhysicalSession ρ)

def executed (session : VitureSession (ρ × List PhysicalCall)) : List VitureControlPacket × List PhysicalCall :=
  (session.sent, session.route.physicalCalls)

def physicalSends (packet : VitureControlPacket) : VitureSessionRoute (ρ × List PhysicalCall) → List PhysicalCall
  | .carina _ _ | .legacyImu _ _ _ => (packet.physicalCommand.map .send).toList
  | .scripted _ _ => []

private theorem applyControlPacket_calls (route : VitureSessionRoute (ρ × List PhysicalCall)) (packet : VitureControlPacket) :
    (applyControlPacket physical.logged route packet).2.physicalCalls =
      route.physicalCalls ++ physicalSends packet route := by
  cases command : packet.physicalCommand <;> cases route <;>
    simp [applyControlPacket, physicalSends, command, VitureSessionRoute.onSession, VitureSessionRoute.physicalCalls,
      DevicePhysicalSession.logged]

/-- The packet of the request is sent, and its physical command, if it has one. -/
def SendsCommand (request : EffectRequest) (before after : VitureSession (ρ × List PhysicalCall)) : Prop :=
  ∃ packet, encodeVitureCommand externals.access externals.rateNew request.payload = .ok packet ∧
    executed after = (before.sent ++ [packet], before.route.physicalCalls ++ physicalSends packet before.route)

private theorem SendsCommand.not_silent {externals : VitureExternals} {request : EffectRequest}
    {before after : VitureSession (ρ × List PhysicalCall)} (sends : SendsCommand externals request before after) :
    executed after ≠ executed before := by
  obtain ⟨packet, _, both⟩ := sends
  have grows : SendsOne VitureSession.sent before after := ⟨packet, congrArg Prod.fst both⟩
  exact fun silent => grows.not_silent (congrArg Prod.fst silent)

private theorem viture_sends :
    EachAcknowledged (VitureSession.session externals physical.logged) (SendsCommand externals) := by
  intro request state receipt answered
  change (state.invoke externals physical.logged request).1 = _ at answered
  change SendsCommand externals request state (state.invoke externals physical.logged request).2
  unfold VitureSession.invoke at answered ⊢
  split at answered
  · cases answered
  split at answered
  · cases answered
  rename_i packet encoded
  have calls := applyControlPacket_calls physical state.route packet
  split at answered
  · cases answered
  rename_i route applied
  rw [applied] at calls
  exact ⟨packet, encoded, Prod.ext rfl calls⟩

end Viture

/-- No session with hardware behind it deduplicates: every keyed repeat is sent
as a new packet, and on VITURE its physical command is sent again as well. -/
theorem keyed_repeats_never_deduplicated {ρ : Type} (debugLen : Expr → Nat) (access : Access)
    (vitureExternals : VitureExternals) (physical : DevicePhysicalSession ρ) (haloExternals : HaloExternals)
    (watch : WatchSession) (viture : VitureSession (ρ × List PhysicalCall)) (halo : HaloSession) :
    (EveryRepeat (WatchSession.session debugLen access) watch fun first second =>
      ¬ Deduplicated WatchSession.sent first second) ∧
    (EveryRepeat (VitureSession.session vitureExternals physical.logged) viture fun first second =>
      ¬ Deduplicated executed first second ∧ ∃ request, second.input = .invoke request ∧
        SendsCommand vitureExternals request second.before second.after) ∧
    (EveryRepeat (HaloSession.session haloExternals) halo fun first second =>
      ¬ Deduplicated HaloSession.sent first second) := by
  refine ⟨?_, ?_, ?_⟩
  · intro calls past first between second later split repeats deduplicated
    obtain ⟨_, _, sends⟩ := (watch_sends debugLen access).repeats watch _ _ _ _ _ _ split repeats
    exact sends.not_silent deduplicated.silent
  · intro calls past first between second later split repeats
    obtain ⟨request, asked, sends⟩ := (viture_sends vitureExternals physical).repeats viture _ _ _ _ _ _ split repeats
    exact ⟨fun deduplicated => sends.not_silent deduplicated.silent, request, asked, sends⟩
  · intro calls past first between second later split repeats deduplicated
    obtain ⟨_, _, sends⟩ := (halo_sends haloExternals).repeats halo _ _ _ _ _ _ split repeats
    exact sends.not_silent deduplicated.silent

private theorem not_deduplicates {session : EffectSession σ} {state current : σ} {effects : σ → α} {request : EffectRequest}
    {receipt repeated : EffectReceipt} (earlier : List SessionCall)
    (reached : session.machine.final state earlier = current) (keyed : blank request.idempotenceKey = false)
    (answered : (session.invoke request current).1 = .ok receipt)
    (answeredAgain : (session.invoke request (session.invoke request current).2).1 = .ok repeated)
    (moved : effects (session.invoke request (session.invoke request current).2).2 ≠
      effects (session.invoke request current).2) : ¬ Deduplicates session state effects := by
  intro deduplicates
  have split : session.machine.trace state (earlier ++ [.invoke request, .invoke request]) =
      session.machine.trace state earlier ++ session.machine.event current (.invoke request) ::
        ([] ++ session.machine.event (session.invoke request current).2 (.invoke request) :: []) := by
    rw [session.machine.trace_append, reached]
    rfl
  have law := deduplicates _ _ _ _ _ _ split ⟨request, request, receipt, repeated, rfl,
    congrArg SessionAnswer.receipt answered, rfl, congrArg SessionAnswer.receipt answeredAgain, keyed, rfl, rfl, rfl⟩
  exact moved law.silent

def notifyCommand : Expr := .map [
  (.symbol (.new "kind"), .symbol (.qualified "view-wrist" "command")),
  (.symbol (.new "command"), .symbol (.qualified "watch/command" "notify")),
  (.symbol (.new "title"), .string "timer"),
  (.symbol (.new "lines"), .list [.string "done", .string "ack"]),
  (.symbol (.new "urgency"), .symbol (.new "info"))]

def display3dCommand : Expr := .map [
  (.symbol (.new "kind"), .symbol (.qualified "view-viture" "command")),
  (.symbol (.new "command"), .symbol (.qualified "viture/command" "display-3d")),
  (.symbol (.new "enabled"), .bool true)]

def willingGlasses : DevicePhysicalSession Unit where
  start state := (.ok (), state)
  poll state := (.ok none, state)
  send _ state := (.ok (), state)
  close state := (.ok (), state)

def plainViture : VitureExternals where
  debugLen _ := 100
  access := plainAccess
  rateNew hz := if hz = 0 then none else some ⟨hz⟩
  poseNew seq position _ _ _ dof _ := .ok ⟨seq, dof, position.isSome, .nil⟩

def watchRequest : EffectRequest := WatchSession.descriptor.armedRequest notifyCommand "key" 0 0

def vitureRequest : EffectRequest := VitureSession.descriptor.armedRequest display3dCommand "key" 0 0

def relayWatch : WatchSession := .new ⟨fun _ => .nil, fun _ => .nil, fun _ _ => .nil⟩ .relay [] noProfile

def carinaGlasses : VitureSession (Unit × List PhysicalCall) := .carina ((), []) noProfile

/-- Each of the three sessions, freshly opened, sends one keyed request twice. -/
theorem keyed_requests_sent_twice :
    (¬ ∀ (debugLen : Expr → Nat) (access : Access) (build : Build) (route : WatchRouteKind) (events : List WornEvent)
      (profile : DeviceProfile),
      Deduplicates (WatchSession.session debugLen access) (.new build route events profile) WatchSession.sent) ∧
    (¬ ∀ (ρ : Type) (externals : VitureExternals) (physical : DevicePhysicalSession ρ) (device : ρ)
      (profile : DeviceProfile),
      Deduplicates (VitureSession.session externals physical.logged) (.carina (device, []) profile) executed) ∧
    (¬ ∀ (externals : HaloExternals) (provider : HaloProvider) (session : HaloSession),
      provider.openSession externals.symbols = .ok session →
      Deduplicates (HaloSession.session externals) session HaloSession.sent) := by
  refine ⟨fun always => ?_, fun always => ?_, fun always => ?_⟩
  · obtain ⟨first, second⟩ : (relayWatch.invoke (fun _ => 100) plainAccess watchRequest).1 =
          .ok ⟨WatchSession.descriptor.receipt, WatchSession.descriptor.id, 1⟩ ∧
        ((relayWatch.invoke (fun _ => 100) plainAccess watchRequest).2.invoke (fun _ => 100) plainAccess watchRequest).1 =
          .ok ⟨WatchSession.descriptor.receipt, WatchSession.descriptor.id, 2⟩ := by decide
    exact not_deduplicates [] rfl rfl first second (watch_sends _ _ _ _ _ second).not_silent
      (always (fun _ => 100) plainAccess _ .relay [] noProfile)
  · obtain ⟨first, second⟩ : (carinaGlasses.invoke plainViture willingGlasses.logged vitureRequest).1 =
          .ok ⟨VitureSession.descriptor.receipt, VitureSession.descriptor.id, 1⟩ ∧
        ((carinaGlasses.invoke plainViture willingGlasses.logged vitureRequest).2.invoke plainViture
          willingGlasses.logged vitureRequest).1 =
          .ok ⟨VitureSession.descriptor.receipt, VitureSession.descriptor.id, 2⟩ := by decide
    exact not_deduplicates [] rfl rfl first second (viture_sends plainViture willingGlasses _ _ _ second).not_silent
      (always Unit plainViture willingGlasses () noProfile)
  · have authorized : HaloSession.descriptor.authorize oneScene.debugLen (frameRequest (.string "scene") "key") = .ok () := by
      decide
    obtain ⟨target, accepted⟩ : ∃ target, LuaFrameState.fromGlance oneScene.fromScene (.string "scene") = .ok target :=
      ⟨_, rfl⟩
    have acknowledges (session : HaloSession) (started : session.started = true) (budget : session.frameBudget = ⟨64⟩) :
        ∃ receipt, (session.invoke oneScene (frameRequest (.string "scene") "key")).1 = .ok receipt :=
      HaloSession.invoke_acknowledged oneScene authorized started accepted (by rw [budget]; decide)
    let current : HaloSession := (HaloSession.new .ble [] noProfile ⟨64⟩).start.2
    obtain ⟨kept, budget⟩ := current.invoke_frame oneScene (frameRequest (.string "scene") "key")
    obtain ⟨_, first⟩ := acknowledges current rfl rfl
    obtain ⟨_, second⟩ := acknowledges _ kept budget
    exact not_deduplicates [.start] rfl rfl first second (halo_sends oneScene _ _ _ second).not_silent
      (always oneScene localHalo _ rfl)

end StreamHost.Proofs.KeyedSessions
