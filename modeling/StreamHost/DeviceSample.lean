import StreamHost.EffectSession
import StreamHost.Lib.Draining

/-! Typed polling of device samples, and the sessions that need no hardware: the
stub that refuses live use and the cassette that replays its samples. -/

namespace StreamHost

/-- The `DeviceSample` contract: a bare kind and the two halves of a codec. -/
structure DeviceSample (α : Type) where
  sampleKind : String
  toExpr : α → Expr
  fromExpr : Expr → DeviceResult α

def deviceSampleKindSymbol (kind : String) : Symbol := .qualified "stream/device-sample" kind

def DeviceProfile.supportsSampleKind (profile : DeviceProfile) (kind : Symbol) : Bool := profile.sampleKinds.contains kind

namespace DeviceSample
variable {α σ : Type} (sample : DeviceSample α)

/-- A polled expression is decoded; no expression is no sample. -/
def decode : Option Expr → DeviceResult (Option α)
  | none => .ok none
  | some expr => (sample.fromExpr expr).map some

def pollDeviceSample (session : ObservationSession σ) (state : σ) : DeviceResult (Option α) × σ :=
  match session.poll sample.sampleKind state with
  | (.error error, state) => (.error error, state)
  | (.ok found, state) => (sample.decode found, state)

end DeviceSample

inductive ObservationCall where
  | start
  | poll (kind : String)
  | pollSample
  | stop
deriving DecidableEq, Repr

inductive ObservationAnswer (α : Type) where
  | done (result : DeviceResult Unit)
  | expr (result : DeviceResult (Option Expr))
  | sample (result : DeviceResult (Option α))

section Machines
variable {α σ : Type} (sample : DeviceSample α)

def ObservationSession.machine (session : ObservationSession σ) : Machine σ ObservationCall (ObservationAnswer α) where
  step state call := match call with
    | .start => (session.start state).map .done id
    | .poll kind => (session.poll kind state).map .expr id
    | .pollSample => (sample.pollDeviceSample session state).map .sample id
    | .stop => (session.stop state).map .done id

/-- A caller of an effect session observes it and invokes its effects. -/
def EffectSession.typedMachine (session : EffectSession σ) :
    Machine σ (ObservationCall ⊕ EffectRequest) (ObservationAnswer α ⊕ DeviceResult EffectReceipt) where
  step state call := match call with
    | .inl call => ((session.toObservationSession.machine sample).step state call).map .inl id
    | .inr request => (session.invoke request state).map .inr id

end Machines

structure StubSession where
  profile : DeviceProfile
deriving DecidableEq, Repr

def StubSession.session : ObservationSession StubSession where
  profile := StubSession.profile
  start state := (.error .unsupported, state)
  poll _ state := (.error .unsupported, state)
  stop state := (.ok (), state)

structure ObservationCassette where
  profile : DeviceProfile
  samples : List Expr

structure ObservationCassetteSession where
  profile : DeviceProfile
  samples : List Expr

def ObservationCassette.open (cassette : ObservationCassette) : DeviceResult ObservationCassetteSession :=
  .ok ⟨cassette.profile, cassette.samples⟩

namespace ObservationCassetteSession

/-- Every kind is served from the one queue. -/
def poll (_kind : String) (session : ObservationCassetteSession) :
    DeviceResult (Option Expr) × ObservationCassetteSession :=
  (.ok session.samples.head?, { session with samples := session.samples.tail })

def session : ObservationSession ObservationCassetteSession where
  profile := ObservationCassetteSession.profile
  start state := (.ok (), state)
  poll := poll
  stop state := (.ok (), state)

end ObservationCassetteSession

end StreamHost
