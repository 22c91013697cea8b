import StreamHost.Viture.Provider
import StreamHost.Wristbridge.Session

/-! The packets a session has sent are a journal of its acknowledgements: one entry
for each, encoded from its own request, in order, under numbers without a gap. -/

namespace StreamHost.Proofs.SessionJournal
open Viture Wristbridge

variable {σ π ρ : Type}

/-- The request of an acknowledged invocation. -/
def acknowledges (event : SessionEvent σ) : Option EffectRequest :=
  match event.input, event.output with
  | .invoke request, .receipt (.ok _) => some request
  | _, _ => none

def acknowledgedRequests (events : List (SessionEvent σ)) : List EffectRequest := events.filterMap acknowledges

private theorem acknowledgedRequests_snoc (past : List (SessionEvent σ)) (event : SessionEvent σ) :
    acknowledgedRequests (past ++ [event]) = acknowledgedRequests past ++ (acknowledges event).toList := by
  rw [acknowledgedRequests, List.filterMap_append, ← acknowledgedRequests]
  cases found : acknowledges event <;> simp [found]

/-- What an effect session has to offer to be journaled: its descriptor, the encoder of
its packets and the packets it has sent. -/
structure Journaling (σ π : Type) where
  session : EffectSession σ
  descriptor : EffectDescriptor
  debugLen : Expr → Nat
  encode : Expr → DeviceResult π
  sent : σ → List π

namespace Journaling
variable (journaling : Journaling σ π)

def receipt (number : Nat) : EffectReceipt :=
  ⟨journaling.descriptor.receipt, journaling.descriptor.id, UInt64.ofNat number⟩

/-- All an invocation can do to the journal. -/
inductive Writes (request : EffectRequest) (before : σ) : DeviceResult EffectReceipt → σ → Prop where
  | refused {error after} (kept : journaling.sent after = journaling.sent before) :
      Writes request before (.error error) after
  | written {after} (packet : π) (authorized : journaling.descriptor.authorize journaling.debugLen request = .ok ())
      (encoded : journaling.encode request.payload = .ok packet)
      (grown : journaling.sent after = journaling.sent before ++ [packet]) :
      Writes request before (.ok (journaling.receipt ((journaling.sent before).length + 1))) after

/-- Only invocations write, and only in states that are kept. -/
structure Keeps (kept : σ → Prop) : Prop where
  start : ∀ state, kept state → kept (journaling.session.start state).2 ∧
    journaling.sent (journaling.session.start state).2 = journaling.sent state
  stop : ∀ state, kept state → kept (journaling.session.stop state).2 ∧
    journaling.sent (journaling.session.stop state).2 = journaling.sent state
  poll : ∀ kind state, kept state → kept (journaling.session.poll kind state).2 ∧
    journaling.sent (journaling.session.poll kind state).2 = journaling.sent state
  invoke : ∀ request state, kept state → kept (journaling.session.invoke request state).2 ∧
    journaling.Writes request state (journaling.session.invoke request state).1 (journaling.session.invoke request state).2

/-- The packets sent in a run are those of its acknowledged requests, each authorized
and encoded, and the receipts count on from the packets sent before. -/
structure Journal (before : List π) (events : List (SessionEvent σ)) (added : List π) : Prop where
  encoded : (acknowledgedRequests events).map (fun request => journaling.encode request.payload) = added.map .ok
  authorized : ∀ request ∈ acknowledgedRequests events,
    journaling.descriptor.authorize journaling.debugLen request = .ok ()
  numbered : acknowledged events = (List.range' (before.length + 1) added.length).map journaling.receipt

variable {journaling}

theorem Journal.silent {before added : List π} {past : List (SessionEvent σ)} {event : SessionEvent σ}
    (journal : journaling.Journal before past added) (request : acknowledges event = none)
    (receipt : event.output.acknowledged = none) : journaling.Journal before (past ++ [event]) added := by
  refine ⟨?_, ?_, ?_⟩
  · rw [acknowledgedRequests_snoc, request, Option.toList_none, List.append_nil]
    exact journal.encoded
  · rw [acknowledgedRequests_snoc, request, Option.toList_none, List.append_nil]
    exact journal.authorized
  · rw [acknowledged_silent receipt]
    exact journal.numbered

theorem Journal.written {before added : List π} {past : List (SessionEvent σ)} {event : SessionEvent σ}
    {request : EffectRequest} {packet : π} (journal : journaling.Journal before past added)
    (authorized : journaling.descriptor.authorize journaling.debugLen request = .ok ())
    (encoded : journaling.encode request.payload = .ok packet) (asked : acknowledges event = some request)
    (issued : event.output.acknowledged = some (journaling.receipt (before.length + added.length + 1))) :
    journaling.Journal before (past ++ [event]) (added ++ [packet]) := by
  refine ⟨?_, ?_, ?_⟩
  · rw [acknowledgedRequests_snoc, asked, Option.toList_some, List.map_append, journal.encoded, List.map_append,
      List.map_singleton, encoded, List.map_singleton]
  · rw [acknowledgedRequests_snoc, asked, Option.toList_some]
    exact List.forall_mem_append.mpr ⟨journal.authorized, List.forall_mem_singleton.mpr authorized⟩
  · rw [acknowledged_issued issued, journal.numbered, List.length_append, List.length_singleton, List.range'_concat,
      List.map_append, List.map_singleton]
    congr 3
    omega

private theorem Keeps.journal {kept : σ → Prop} (keeps : journaling.Keeps kept) {state : σ} (initial : kept state)
    (calls : List SessionCall) : ∃ added,
      journaling.sent (journaling.session.machine.final state calls) = journaling.sent state ++ added ∧
        journaling.Journal (journaling.sent state) (journaling.session.machine.trace state calls) added := by
  have run := journaling.session.machine.history (fun past current => kept current ∧ ∃ added,
    journaling.sent current = journaling.sent state ++ added ∧ journaling.Journal (journaling.sent state) past added)
    ?_ ⟨initial, [], (List.append_nil _).symm, rfl, List.forall_mem_nil _, rfl⟩ calls
  · exact run.2
  intro past current call holds
  obtain ⟨here, added, sent, journal⟩ := holds
  cases call with
  | start =>
    obtain ⟨still, same⟩ := keeps.start current here
    exact ⟨still, added, same.trans sent, journal.silent rfl rfl⟩
  | stop =>
    obtain ⟨still, same⟩ := keeps.stop current here
    exact ⟨still, added, same.trans sent, journal.silent rfl rfl⟩
  | poll kind =>
    obtain ⟨still, same⟩ := keeps.poll kind current here
    exact ⟨still, added, same.trans sent, journal.silent rfl rfl⟩
  | invoke request =>
    obtain ⟨still, writes⟩ := keeps.invoke request current here
    have output : (journaling.session.machine.event current (.invoke request)).output =
        .receipt (journaling.session.invoke request current).1 := rfl
    have input : (journaling.session.machine.event current (.invoke request)).input = .invoke request := rfl
    refine ⟨still, ?_⟩
    change ∃ added, journaling.sent (journaling.session.invoke request current).2 = _ ∧ _
    generalize (journaling.session.invoke request current).1 = answer at *
    generalize (journaling.session.invoke request current).2 = after at *
    generalize journaling.session.machine.event current (.invoke request) = event at *
    cases writes with
    | refused same =>
      refine ⟨added, same.trans sent, journal.silent ?_ ?_⟩
      · rw [acknowledges, input, output]
      · rw [output]
        rfl
    | written packet authorized encoded grown =>
      refine ⟨added ++ [packet], ?_, journal.written authorized encoded ?_ ?_⟩
      · rw [grown, sent, List.append_assoc]
      · rw [acknowledges, input, output]
      · rw [output, sent, List.length_append]
        rfl

end Journaling

section Sessions
open Journaling

section Watch
variable (debugLen : Expr → Nat) (access : Access) (route : WatchRouteKind)

def watchJournal : Journaling WatchSession WatchCommandPacket where
  session := WatchSession.session debugLen access
  descriptor := WatchSession.descriptor
  debugLen := debugLen
  encode := encodeWatchCommand access route
  sent := WatchSession.sent

private theorem watch_keeps : (watchJournal debugLen access route).Keeps fun session => session.route = route where
  start _ kept := ⟨kept, rfl⟩
  stop _ kept := ⟨kept, rfl⟩
  poll kind session kept := by
    change (session.poll kind).2.route = route ∧ (session.poll kind).2.sent = session.sent
    unfold WatchSession.poll
    split
    · exact ⟨kept, rfl⟩
    · exact ⟨kept, rfl⟩
  invoke request session kept := by
    change (session.invoke debugLen access request).2.route = route ∧ Writes _ _ _ (session.invoke debugLen access request).1
      (session.invoke debugLen access request).2
    unfold WatchSession.invoke
    split
    · exact ⟨kept, .refused rfl⟩
    rename_i authorized
    split
    · exact ⟨kept, .refused rfl⟩
    rename_i packet encoded
    simp only [List.length_append, List.length_singleton]
    rw [kept] at encoded
    exact ⟨kept, .written packet authorized encoded rfl⟩

end Watch

section Glasses
variable (externals : VitureExternals) (physical : DevicePhysicalSession ρ)

def vitureJournal : Journaling (VitureSession ρ) VitureControlPacket where
  session := VitureSession.session externals physical
  descriptor := VitureSession.descriptor
  debugLen := externals.debugLen
  encode := encodeVitureCommand externals.access externals.rateNew
  sent := VitureSession.sent

private theorem viture_poll_sent (kind : String) (session : VitureSession ρ) :
    (session.poll externals physical kind).2.sent = session.sent := by
  unfold VitureSession.poll
  split
  · rfl
  split
  · split
    · rfl
    split
    · rfl
    · split <;> rfl
    · rfl
  · split
    · rfl
    split <;> rfl
  · split <;> rfl

private theorem viture_keeps : (vitureJournal externals physical).Keeps fun _ => True where
  start session _ := by
    refine ⟨trivial, ?_⟩
    change (session.start physical).2.sent = session.sent
    unfold VitureSession.start
    split <;> rfl
  stop session _ := by
    refine ⟨trivial, ?_⟩
    change (session.stop physical).2.sent = session.sent
    unfold VitureSession.stop
    split <;> rfl
  poll kind session _ := ⟨trivial, viture_poll_sent externals physical kind session⟩
  invoke request session _ := by
    refine ⟨trivial, ?_⟩
    change Writes _ _ _ (session.invoke externals physical request).1 (session.invoke externals physical request).2
    unfold VitureSession.invoke
    split
    · exact .refused rfl
    rename_i authorized
    split
    · exact .refused rfl
    rename_i packet encoded
    split
    · exact .refused rfl
    simp only [List.length_append, List.length_singleton]
    exact .written packet authorized encoded rfl

end Glasses

/-- The packets a watch or VITURE session sends in any run are exactly the encoded payloads
of its acknowledged requests, in order. Every one of those was authorized, their receipts
count on from the packets sent before without a gap, and refused requests leave no entry. -/
theorem sessions_keep_journals (debugLen : Expr → Nat) (access : Access) (watch : WatchSession)
    (externals : VitureExternals) (physical : DevicePhysicalSession ρ) (viture : VitureSession ρ)
    (calls : List SessionCall) :
    (∃ added, ((WatchSession.session debugLen access).machine.final watch calls).sent = watch.sent ++ added ∧
      (watchJournal debugLen access watch.route).Journal watch.sent
        ((WatchSession.session debugLen access).machine.trace watch calls) added) ∧
    (∃ added, ((VitureSession.session externals physical).machine.final viture calls).sent = viture.sent ++ added ∧
      (vitureJournal externals physical).Journal viture.sent
        ((VitureSession.session externals physical).machine.trace viture calls) added) :=
  ⟨(watch_keeps debugLen access watch.route).journal rfl calls, (viture_keeps externals physical).journal trivial calls⟩

end Sessions

end StreamHost.Proofs.SessionJournal
