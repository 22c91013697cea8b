import StreamHost.MusicEffects
import StreamHost.Proofs.EffectLedger

/-! Which receipt an acknowledged request gets, and when a completed keyed effect
can be retried. Both depend on what is stored under the key and on the order in
which the session checks its invocation bound and its stored receipts. -/

namespace StreamHost.Proofs.EffectReceipts
open Std FakeEffectSession

variable (debugLen : Expr → Nat)

/-- An acknowledged request is acknowledged by a receipt of its own descriptor. -/
def ReceiptBelongs (registry : EffectRegistry) (event : SessionEvent FakeEffectSession) : Prop :=
  ∀ request receipt, event.input = .invoke request → event.output = .receipt (.ok receipt) →
    receipt.descriptor = request.descriptor ∧
      ∃ descriptor, registry.get request.descriptor = some descriptor ∧ receipt.kind = descriptor.receipt

/-- A request that reaches the stored receipts finds none of another descriptor
under its key. -/
def KeyIsOwn (event : SessionEvent FakeEffectSession) : Prop :=
  ∀ request descriptor receipt, event.input = .invoke request →
    Admitted debugLen event.before descriptor request →
    event.before.count request.descriptor < descriptor.bounds.maxInvocations →
    event.before.replay request = some receipt → receipt.descriptor = request.descriptor

private theorem invoke_replays {debugLen : Expr → Nat} {session : FakeEffectSession} {descriptor : EffectDescriptor}
    {request : EffectRequest} {receipt : EffectReceipt}
    (admitted : Admitted debugLen session descriptor request)
    (left : session.count request.descriptor < descriptor.bounds.maxInvocations)
    (stored : session.replay request = some receipt) :
    session.invoke debugLen request = (.ok receipt, session.touch request.descriptor) := by
  simp only [invoke, admitted.running, admitted.registered, admitted.authorized, Bool.false_eq_true, if_false,
    touch_count, touch_replay, UInt64.not_le.mpr left, stored]

private theorem belongs_iff_own {registry : EffectRegistry} {session : FakeEffectSession}
    (coherent : Coherent registry session) (call : SessionCall) :
    ReceiptBelongs registry ((machine debugLen).event session call) ↔
      KeyIsOwn debugLen ((machine debugLen).event session call) := by
  constructor
  · rintro belongs request descriptor receipt rfl admitted left stored
    have replayed : session.invoke debugLen request = _ := invoke_replays admitted left stored
    refine (belongs request receipt rfl ?_).1
    rw [Machine.event_output, step_invoke, replayed]
  · rintro own request receipt rfl answered
    rw [Machine.event_output, step_invoke, SessionAnswer.receipt.injEq] at answered
    generalize same : session.invoke debugLen request = result at answered
    have outcome := invoke_outcome debugLen session request
    rw [same] at outcome
    cases outcome with
    | refused | exhausted => cases answered
    | replayed admitted left stored =>
      cases answered
      have named := own request _ receipt rfl admitted left stored
      exact ⟨named, named ▸ coherent.replay stored⟩
    | @executed descriptor admitted left unused =>
      cases answered
      exact ⟨admitted.named, descriptor, coherent.reads ▸ admitted.registered, rfl⟩

/-- In every run, every receipt belongs to the request it answers exactly when
no request that reaches the stored receipts reuses a key of another descriptor. -/
theorem receipts_belong_iff (profile : DeviceProfile) (registry : EffectRegistry) (calls : List SessionCall) :
    (∀ event ∈ (machine debugLen).trace (.new profile registry) calls, ReceiptBelongs registry event) ↔
      ∀ event ∈ (machine debugLen).trace (.new profile registry) calls, KeyIsOwn debugLen event := by
  have each := (machine debugLen).trace_forall (Coherent registry)
    (fun event => ReceiptBelongs registry event ↔ KeyIsOwn debugLen event) (step_coherent debugLen)
    (fun _ call coherent => belongs_iff_own debugLen coherent call) (.new profile registry) calls
  exact forall₂_congr each

/-- An emergency stop under the key of an earlier MIDI send is not executed: it
is answered with the receipt of the MIDI send. -/
theorem shared_key_answers_another_effect :
    ¬ ∀ (debugLen : Expr → Nat) (profile : DeviceProfile) (descriptors : List EffectDescriptor)
      (registry : EffectRegistry) (calls : List SessionCall), EffectRegistry.new descriptors = .ok registry →
      ∀ event ∈ (machine debugLen).trace (.new profile registry) calls, ReceiptBelongs registry event := by
  intro always
  let send := musicRequest .midiSend "key" 10 11
  let halt := musicRequest .emergencyStop "key" 10 12
  obtain ⟨registry, accepted, answered⟩ : ∃ registry, musicEffectRegistry = .ok registry ∧
      (((FakeEffectSession.new noProfile registry).invoke (fun _ => 10) send).2.invoke (fun _ => 10) halt).1 =
        .ok ⟨MusicEffect.midiSend.descriptor.receipt, MusicEffect.midiSend.descriptor.id, 1⟩ := by decide
  have member : (machine fun _ => 10).event ((FakeEffectSession.new noProfile registry).invoke (fun _ => 10) send).2
      (.invoke halt) ∈ (machine fun _ => 10).trace (.new noProfile registry) [.invoke send, .invoke halt] := by
    simp [Machine.trace_cons, step_invoke]
  have belongs := always _ _ _ registry _ accepted _ member halt _ rfl (congrArg SessionAnswer.receipt answered)
  exact absurd belongs.1 (by decide)

/-- A request for a keyed effect that was already acknowledged in this session
arrives again, authorized, while the session runs. -/
structure Retried (registry : EffectRegistry) (opened completed current : FakeEffectSession)
    (descriptor : EffectDescriptor) (first retry : EffectRequest) (receipt : EffectReceipt)
    (between : List SessionCall) : Prop where
  registered : registry.get first.descriptor = some descriptor
  policy : descriptor.idempotence = .keyed
  acknowledged : opened.invoke debugLen first = (.ok receipt, completed)
  reached : (machine debugLen).final completed between = current
  sameEffect : retry.descriptor = first.descriptor
  sameKey : retry.idempotenceKey = first.idempotenceKey
  authorized : descriptor.authorize debugLen retry = .ok ()
  running : current.stopped = false

def Replays (current : FakeEffectSession) (retry : EffectRequest) (receipt : EffectReceipt) : Prop :=
  (current.invoke debugLen retry).1 = .ok receipt ∧ SameLedger current (current.invoke debugLen retry).2

private theorem acknowledged_keyed {debugLen : Expr → Nat} {session after : FakeEffectSession} {request : EffectRequest}
    {descriptor : EffectDescriptor} {receipt : EffectReceipt}
    (registered : session.registry.get request.descriptor = some descriptor)
    (policy : descriptor.idempotence = .keyed)
    (acknowledged : session.invoke debugLen request = (.ok receipt, after)) :
    blank request.idempotenceKey = false := by
  have outcome := invoke_outcome debugLen session request
  rw [acknowledged] at outcome
  generalize answered : ((.ok receipt : DeviceResult EffectReceipt), after) = result at outcome
  have admits {other : EffectDescriptor} (admitted : Admitted debugLen session other request) :
      blank request.idempotenceKey = false := by
    obtain rfl : descriptor = other := Option.some.inj (registered.symm.trans admitted.registered)
    exact (EffectDescriptor.authorize_ok admitted.authorized).keyed policy
  cases outcome with
  | refused => cases answered
  | exhausted admitted | replayed admitted | executed admitted => exact admits admitted

/-- A retry of a completed keyed effect is answered with its receipt, whatever
happened in between, exactly while the effect has invocations left. -/
theorem retry_replays_iff (profile : DeviceProfile) (registry : EffectRegistry) (earlier between : List SessionCall)
    {completed current : FakeEffectSession} {descriptor : EffectDescriptor} {first retry : EffectRequest}
    {receipt : EffectReceipt}
    (retried : Retried debugLen registry ((machine debugLen).final (.new profile registry) earlier)
      completed current descriptor first retry receipt between) :
    Replays debugLen current retry receipt ↔
      current.count retry.descriptor < descriptor.bounds.maxInvocations := by
  have opened : Coherent registry ((machine debugLen).final (.new profile registry) earlier) :=
    (machine debugLen).final_preserves _ (step_coherent debugLen) (.new profile registry) earlier
  have finished : Coherent registry completed := by
    have kept := opened.invoke debugLen first
    rwa [retried.acknowledged] at kept
  have reached : Coherent registry current := by
    rw [← retried.reached]
    exact (machine debugLen).final_preserves _ (step_coherent debugLen) finished between
  have stored : completed.replay first = some receipt := acknowledged_stored
    (acknowledged_keyed (by rw [opened.reads]; exact retried.registered) retried.policy retried.acknowledged)
    retried.acknowledged
  have kept : current.replay retry = some receipt := by
    obtain ⟨key, used, found⟩ := Option.bind_eq_some_iff.mp stored
    rw [replay, retried.sameKey, used, Option.bind_some, ← retried.reached]
    exact final_extends debugLen completed between key receipt found
  have admitted : Admitted debugLen current descriptor retry :=
    ⟨retried.running, by rw [reached.reads, retried.sameEffect, retried.registered], retried.authorized⟩
  constructor
  · rintro ⟨answered, _⟩
    generalize same : current.invoke debugLen retry = result at answered
    have outcome := invoke_outcome debugLen current retry
    rw [same] at outcome
    cases outcome with
    | refused | exhausted => cases answered
    | replayed admitted' left | executed admitted' left =>
      exact Option.some.inj (admitted'.registered.symm.trans admitted.registered) ▸ left
  · intro left
    rw [Replays, invoke_replays admitted left kept]
    exact ⟨rfl, .touch current _⟩

def boundedSend (maxInvocations : UInt64) : EffectDescriptor :=
  { MusicEffect.midiSend.descriptor with bounds := { maxRequestBytes := 4096, maxInvocations } }

def sentOnce (registry : EffectRegistry) : DeviceResult EffectReceipt × FakeEffectSession :=
  (FakeEffectSession.new noProfile registry).invoke (fun _ => 10) (musicRequest .midiSend "key" 10 11)

def sendAgain : EffectRequest := musicRequest .midiSend "key" 12 13

private theorem sentOnce_retried {maxInvocations : UInt64} {registry : EffectRegistry}
    (registered : registry.get (boundedSend maxInvocations).id = some (boundedSend maxInvocations))
    (authorized : (boundedSend maxInvocations).authorize (fun _ => 10) sendAgain = .ok ())
    (running : (sentOnce registry).2.stopped = false) {receipt : EffectReceipt}
    (answered : (sentOnce registry).1 = .ok receipt) :
    Retried (fun _ => 10) registry (.new noProfile registry) (sentOnce registry).2 (sentOnce registry).2
      (boundedSend maxInvocations) (musicRequest .midiSend "key" 10 11) sendAgain receipt [] where
  registered := registered
  policy := rfl
  acknowledged := Prod.ext answered rfl
  reached := rfl
  sameEffect := rfl
  sameKey := rfl
  authorized := authorized
  running := running

theorem retry_replays_with_two_invocations :
    ∃ registry receipt, EffectRegistry.new [boundedSend 2] = .ok registry ∧
      (Replays (fun _ => 10) (sentOnce registry).2 sendAgain receipt ↔
        (sentOnce registry).2.count sendAgain.descriptor < 2) := by
  obtain ⟨registry, accepted, registered, authorized, running, answered⟩ :
      ∃ registry, EffectRegistry.new [boundedSend 2] = .ok registry ∧
        registry.get (boundedSend 2).id = some (boundedSend 2) ∧
        (boundedSend 2).authorize (fun _ => 10) sendAgain = .ok () ∧ (sentOnce registry).2.stopped = false ∧
        (sentOnce registry).1 = .ok ⟨(boundedSend 2).receipt, (boundedSend 2).id, 1⟩ := by decide
  exact ⟨registry, _, accepted, retry_replays_iff (fun _ => 10) noProfile registry [] []
    (sentOnce_retried registered authorized running answered)⟩

/-- With a single invocation allowed, the retry of the completed effect is refused. -/
theorem retry_after_last_invocation_fails :
    ¬ ∀ (debugLen : Expr → Nat) (profile : DeviceProfile) (descriptors : List EffectDescriptor)
      (registry : EffectRegistry) (earlier between : List SessionCall) (completed current : FakeEffectSession)
      (descriptor : EffectDescriptor) (first retry : EffectRequest) (receipt : EffectReceipt),
      EffectRegistry.new descriptors = .ok registry →
      Retried debugLen registry ((machine debugLen).final (.new profile registry) earlier)
        completed current descriptor first retry receipt between →
      Replays debugLen current retry receipt := by
  intro always
  obtain ⟨registry, accepted, registered, authorized, running, answered, refused⟩ :
      ∃ registry, EffectRegistry.new [boundedSend 1] = .ok registry ∧
        registry.get (boundedSend 1).id = some (boundedSend 1) ∧
        (boundedSend 1).authorize (fun _ => 10) sendAgain = .ok () ∧ (sentOnce registry).2.stopped = false ∧
        (sentOnce registry).1 = .ok ⟨(boundedSend 1).receipt, (boundedSend 1).id, 1⟩ ∧
        ((sentOnce registry).2.invoke (fun _ => 10) sendAgain).1 =
          .error (.contract "effect invocation bound exhausted") := by decide
  have replayed := always (fun _ => 10) noProfile _ registry [] [] _ _ _ _ _ _ accepted
    (sentOnce_retried registered authorized running answered)
  cases refused.symm.trans replayed.1

end StreamHost.Proofs.EffectReceipts
