import StreamHost.EffectSession

/-! Everything one invocation of the fake session can do, and what every run
keeps: receipts stay as they were stored and name registered descriptors. -/

namespace StreamHost.FakeEffectSession
open Std

@[simp] theorem touch_count (session : FakeEffectSession) (id other : Symbol) :
    (session.touch id).count other = session.count other := by
  simp only [count, touch, OrdMap.getD_insert]
  split
  · rename_i same; rw [same]
  · rfl

@[simp] theorem touch_replay (session : FakeEffectSession) (id : Symbol) (request : EffectRequest) :
    (session.touch id).replay request = session.replay request := rfl

structure Admitted (debugLen : Expr → Nat) (session : FakeEffectSession) (descriptor : EffectDescriptor)
    (request : EffectRequest) : Prop where
  running : session.stopped = false
  registered : session.registry.get request.descriptor = some descriptor
  authorized : descriptor.authorize debugLen request = .ok ()

theorem Admitted.named {debugLen session descriptor request}
    (admitted : Admitted debugLen session descriptor request) : descriptor.id = request.descriptor :=
  session.registry.keyed _ _ admitted.registered

/-- All an invocation can do. Only `executed` performs an effect; the two middle
outcomes may leave a zero count behind. -/
inductive Outcome (debugLen : Expr → Nat) (session : FakeEffectSession) (request : EffectRequest) :
    DeviceResult EffectReceipt × FakeEffectSession → Prop where
  | refused {error} (unfit : ∀ descriptor, ¬ Admitted debugLen session descriptor request) :
      Outcome debugLen session request (.error error, session)
  | exhausted {error descriptor} (admitted : Admitted debugLen session descriptor request)
      (spent : descriptor.bounds.maxInvocations ≤ session.count request.descriptor) :
      Outcome debugLen session request (.error error, session.touch request.descriptor)
  | replayed {receipt descriptor} (admitted : Admitted debugLen session descriptor request)
      (left : session.count request.descriptor < descriptor.bounds.maxInvocations)
      (stored : session.replay request = some receipt) :
      Outcome debugLen session request (.ok receipt, session.touch request.descriptor)
  | executed {descriptor} (admitted : Admitted debugLen session descriptor request)
      (left : session.count request.descriptor < descriptor.bounds.maxInvocations)
      (unused : session.replay request = none) :
      Outcome debugLen session request ((session.touch request.descriptor).execute descriptor request)

theorem invoke_outcome (debugLen : Expr → Nat) (session : FakeEffectSession) (request : EffectRequest) :
    Outcome debugLen session request (session.invoke debugLen request) := by
  unfold invoke
  split
  · rename_i stopped
    exact .refused fun _ admitted => by simp [admitted.running] at stopped
  rename_i running
  rw [Bool.not_eq_true] at running
  split
  · rename_i missing
    exact .refused fun _ admitted => by simp [admitted.registered] at missing
  rename_i descriptor registered
  split
  · rename_i error denied
    refine .refused fun other admitted => ?_
    obtain rfl : descriptor = other := Option.some.inj (registered.symm.trans admitted.registered)
    cases denied.symm.trans admitted.authorized
  rename_i authorized
  have admitted : Admitted debugLen session descriptor request := ⟨running, registered, authorized⟩
  simp only [touch_count, touch_replay]
  split
  · exact .exhausted admitted ‹_›
  rename_i left
  rw [UInt64.not_le] at left
  split
  · exact .replayed admitted left ‹_›
  · exact .executed admitted left ‹_›

/-- Two sessions agree on every effect executed so far; an absent count is zero. -/
structure SameLedger (before after : FakeEffectSession) : Prop where
  sequence : after.sequence = before.sequence
  counts : ∀ id, after.count id = before.count id
  receipts : after.receipts = before.receipts

theorem SameLedger.refl (session : FakeEffectSession) : SameLedger session session := ⟨rfl, fun _ => rfl, rfl⟩

theorem SameLedger.touch (session : FakeEffectSession) (id : Symbol) : SameLedger session (session.touch id) :=
  ⟨rfl, touch_count session id, rfl⟩

theorem invoke_error_keeps {debugLen : Expr → Nat} {session after : FakeEffectSession} {request : EffectRequest}
    {error : DeviceError} (failed : session.invoke debugLen request = (.error error, after)) :
    SameLedger session after := by
  have outcome := invoke_outcome debugLen session request
  rw [failed] at outcome
  cases outcome with
  | refused => exact .refl session
  | exhausted => exact .touch session _

section Execute
variable (session : FakeEffectSession) (descriptor : EffectDescriptor) (request : EffectRequest)

def nextReceipt : EffectReceipt := ⟨descriptor.receipt, descriptor.id, session.sequence + 1⟩

theorem execute_count (id : Symbol) : (session.execute descriptor request).2.count id =
    if request.descriptor = id then session.count id + 1 else session.count id := by
  simp only [execute, count, OrdMap.getD_insert]
  split
  · rename_i same; rw [same]
  · rfl

theorem execute_receipts (key : String) : (session.execute descriptor request).2.receipts[key]? =
    if request.idempotenceKey = some key then some (session.nextReceipt descriptor) else session.receipts[key]? := by
  simp only [execute]
  cases used : request.idempotenceKey with
  | none => simp
  | some own => simp only [OrdMap.getElem?_insert, Option.some.injEq, nextReceipt]

private theorem execute_replay : (session.execute descriptor request).2.replay request =
    request.idempotenceKey.map fun _ => session.nextReceipt descriptor := by
  unfold replay
  cases used : request.idempotenceKey with
  | none => rfl
  | some key => rw [Option.bind_some, execute_receipts, used, if_pos rfl, Option.map_some]

end Execute

/-- A receipt once stored under a key is the key's receipt for good. -/
def Extends (before after : FakeEffectSession) : Prop :=
  ∀ (key : String) (receipt : EffectReceipt), before.receipts[key]? = some receipt → after.receipts[key]? = some receipt

private theorem invoke_extends (debugLen : Expr → Nat) (session : FakeEffectSession) (request : EffectRequest) :
    Extends session (session.invoke debugLen request).2 := by
  generalize answered : session.invoke debugLen request = result
  have outcome := invoke_outcome debugLen session request
  rw [answered] at outcome
  cases outcome with
  | refused | exhausted | replayed => exact fun _ _ stored => stored
  | executed admitted left unused =>
    intro key receipt stored
    rw [execute_receipts]
    split
    · rename_i used
      rw [replay, used, Option.bind_some] at unused
      cases unused.symm.trans stored
    · exact stored

theorem acknowledged_stored {debugLen : Expr → Nat} {session after : FakeEffectSession} {request : EffectRequest}
    {receipt : EffectReceipt} (keyed : blank request.idempotenceKey = false)
    (acknowledged : session.invoke debugLen request = (.ok receipt, after)) :
    after.replay request = some receipt := by
  generalize same : session.invoke debugLen request = result at acknowledged
  have outcome := invoke_outcome debugLen session request
  rw [same] at outcome
  cases outcome with
  | refused | exhausted => cases acknowledged
  | replayed admitted left stored => cases acknowledged; exact stored
  | @executed descriptor admitted left unused =>
    have answered := execute_replay (session.touch request.descriptor) descriptor request
    rw [acknowledged] at answered
    cases used : request.idempotenceKey with
    | none => simp [used, blank] at keyed
    | some key =>
      rw [answered, used, Option.map_some]
      exact congrArg some (Except.ok.inj (congrArg Prod.fst acknowledged))

/-- Stored receipts carry the receipt kind of the descriptor they name. -/
structure Coherent (registry : EffectRegistry) (session : FakeEffectSession) : Prop where
  reads : session.registry = registry
  stored : ∀ (key : String) (receipt : EffectReceipt), session.receipts[key]? = some receipt →
    ∃ descriptor, registry.get receipt.descriptor = some descriptor ∧ receipt.kind = descriptor.receipt

theorem Coherent.new (profile : DeviceProfile) (registry : EffectRegistry) :
    Coherent registry (.new profile registry) := ⟨rfl, by simp [FakeEffectSession.new]⟩

theorem Coherent.replay {registry session} (coherent : Coherent registry session) {request : EffectRequest}
    {receipt : EffectReceipt} (stored : session.replay request = some receipt) :
    ∃ descriptor, registry.get receipt.descriptor = some descriptor ∧ receipt.kind = descriptor.receipt := by
  obtain ⟨key, _, found⟩ := Option.bind_eq_some_iff.mp stored
  exact coherent.stored key receipt found

theorem Coherent.invoke {registry session} (coherent : Coherent registry session) (debugLen : Expr → Nat)
    (request : EffectRequest) : Coherent registry (session.invoke debugLen request).2 := by
  generalize answered : session.invoke debugLen request = result
  have outcome := invoke_outcome debugLen session request
  rw [answered] at outcome
  cases outcome with
  | refused | exhausted | replayed => exact ⟨coherent.reads, coherent.stored⟩
  | @executed descriptor admitted left unused =>
    refine ⟨coherent.reads, fun key receipt stored => ?_⟩
    rw [execute_receipts] at stored
    split at stored
    · cases stored
      refine ⟨descriptor, ?_, rfl⟩
      rw [nextReceipt, admitted.named, ← coherent.reads]
      exact admitted.registered
    · exact coherent.stored key receipt stored

variable (debugLen : Expr → Nat)

abbrev machine : Machine FakeEffectSession SessionCall SessionAnswer := (session debugLen).machine

theorem step_invoke (state : FakeEffectSession) (request : EffectRequest) :
    (machine debugLen).step state (.invoke request) =
      (.receipt (state.invoke debugLen request).1, (state.invoke debugLen request).2) := rfl

theorem step_coherent {registry : EffectRegistry} (state : FakeEffectSession) (call : SessionCall)
    (coherent : Coherent registry state) : Coherent registry ((machine debugLen).step state call).2 := by
  cases call with
  | invoke request => exact coherent.invoke debugLen request
  | start | poll _ | stop => exact ⟨coherent.reads, coherent.stored⟩

theorem final_extends (state : FakeEffectSession) (calls : List SessionCall) :
    Extends state ((machine debugLen).final state calls) := by
  refine (machine debugLen).final_preserves (Extends state) ?_ (fun _ _ stored => stored) calls
  intro current call extended key receipt stored
  cases call with
  | invoke request => exact invoke_extends debugLen current request key receipt (extended key receipt stored)
  | start | poll _ | stop => exact extended key receipt stored

end StreamHost.FakeEffectSession
