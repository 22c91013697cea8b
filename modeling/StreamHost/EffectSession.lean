import StreamHost.Device

/-! The session traits of device providers, the runs a caller can drive through
them, and the fake session that proves registered adapters without hardware. -/

namespace StreamHost
open Std

/-- The `ObservationSession` trait. Every method that borrows the session
mutably also returns the session it leaves behind, on errors too. -/
structure ObservationSession (σ : Type) where
  profile : σ → DeviceProfile
  start : σ → DeviceResult Unit × σ
  poll : String → σ → DeviceResult (Option Expr) × σ
  stop : σ → DeviceResult Unit × σ

structure EffectSession (σ : Type) extends ObservationSession σ where
  invoke : EffectRequest → σ → DeviceResult EffectReceipt × σ

inductive SessionCall where
  | start
  | poll (kind : String)
  | stop
  | invoke (request : EffectRequest)

inductive SessionAnswer where
  | done (result : DeviceResult Unit)
  | sample (result : DeviceResult (Option Expr))
  | receipt (result : DeviceResult EffectReceipt)

def SessionAnswer.acknowledged : SessionAnswer → Option EffectReceipt
  | .receipt (.ok issued) => some issued
  | _ => none

theorem SessionAnswer.acknowledged_eq_some {answer : SessionAnswer} {receipt : EffectReceipt} :
    answer.acknowledged = some receipt ↔ answer = .receipt (.ok receipt) := by
  unfold acknowledged
  split <;> simp_all

def EffectSession.machine {σ : Type} (session : EffectSession σ) : Machine σ SessionCall SessionAnswer where
  step state call := match call with
    | .start => (session.start state).map .done id
    | .poll kind => (session.poll kind state).map .sample id
    | .stop => (session.stop state).map .done id
    | .invoke request => (session.invoke request state).map .receipt id

abbrev SessionEvent (σ : Type) := Machine.Event σ SessionCall SessionAnswer

/-- All receipts returned so far, repeated ones included. -/
def acknowledged {σ : Type} (past : List (SessionEvent σ)) : List EffectReceipt :=
  past.filterMap (·.output.acknowledged)

theorem acknowledged_snoc {σ : Type} (past : List (SessionEvent σ)) (event : SessionEvent σ) :
    acknowledged (past ++ [event]) = acknowledged past ++ event.output.acknowledged.toList := by
  rw [acknowledged, List.filterMap_append, ← acknowledged]
  cases answered : event.output.acknowledged <;> simp [answered]

theorem acknowledged_silent {σ : Type} {past : List (SessionEvent σ)} {event : SessionEvent σ}
    (silent : event.output.acknowledged = none) : acknowledged (past ++ [event]) = acknowledged past := by
  rw [acknowledged_snoc, silent, Option.toList_none, List.append_nil]

theorem acknowledged_issued {σ : Type} {past : List (SessionEvent σ)} {event : SessionEvent σ} {receipt : EffectReceipt}
    (issued : event.output.acknowledged = some receipt) :
    acknowledged (past ++ [event]) = acknowledged past ++ [receipt] := by
  rw [acknowledged_snoc, issued, Option.toList_some]

structure FakeEffectSession where
  profile : DeviceProfile
  registry : EffectRegistry
  receipts : ExtTreeMap String EffectReceipt
  invocations : ExtTreeMap Symbol UInt64
  stopped : Bool
  sequence : UInt64

namespace FakeEffectSession

def new (profile : DeviceProfile) (registry : EffectRegistry) : FakeEffectSession :=
  { profile, registry, receipts := ∅, invocations := ∅, stopped := false, sequence := 0 }

def start (session : FakeEffectSession) : DeviceResult Unit × FakeEffectSession :=
  (.ok (), { session with stopped := false })

def poll (_kind : String) (session : FakeEffectSession) : DeviceResult (Option Expr) × FakeEffectSession :=
  (.ok none, session)

def stop (session : FakeEffectSession) : DeviceResult Unit × FakeEffectSession :=
  (.ok (), { session with stopped := true })

def count (session : FakeEffectSession) (id : Symbol) : UInt64 := session.invocations.getD id 0

def replay (session : FakeEffectSession) (request : EffectRequest) : Option EffectReceipt :=
  request.idempotenceKey.bind (session.receipts[·]?)

/-- What `entry(..).or_default()` leaves behind: the count is now present, if only as zero. -/
def touch (session : FakeEffectSession) (id : Symbol) : FakeEffectSession :=
  { session with invocations := session.invocations.insert id (session.count id) }

def execute (session : FakeEffectSession) (descriptor : EffectDescriptor) (request : EffectRequest) :
    DeviceResult EffectReceipt × FakeEffectSession :=
  let sequence := session.sequence + 1
  let receipt := { kind := descriptor.receipt, descriptor := descriptor.id, sequence }
  let receipts := match request.idempotenceKey with
    | some key => session.receipts.insert key receipt
    | none => session.receipts
  (.ok receipt, { session with
    invocations := session.invocations.insert request.descriptor (session.count request.descriptor + 1)
    sequence, receipts })

def invoke (debugLen : Expr → Nat) (request : EffectRequest) (session : FakeEffectSession) :
    DeviceResult EffectReceipt × FakeEffectSession :=
  if session.stopped then (.error (.host "effect session is locally stopped"), session) else
  match session.registry.get request.descriptor with
  | none => (.error (.contract "effect is not registered"), session)
  | some descriptor =>
    match descriptor.authorize debugLen request with
    | .error error => (.error error, session)
    | .ok () =>
      -- The bound is checked before the key is looked up.
      let touched := session.touch request.descriptor
      if descriptor.bounds.maxInvocations ≤ touched.count request.descriptor then
        (.error (.contract "effect invocation bound exhausted"), touched)
      else
        match touched.replay request with
        | some receipt => (.ok receipt, touched)
        | none => touched.execute descriptor request

def session (debugLen : Expr → Nat) : EffectSession FakeEffectSession where
  profile := FakeEffectSession.profile
  start := start
  poll := poll
  stop := stop
  invoke := invoke debugLen

end FakeEffectSession

end StreamHost
