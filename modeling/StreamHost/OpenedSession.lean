import StreamHost.DeviceSample
import StreamHost.Halo.Provider
import StreamHost.Viture.Provider
import StreamHost.Wristbridge.Bringup

/-! What opening a device provider gives its caller: a session that can be observed, and
the effect surface only where the provider opened one. -/

namespace StreamHost

/-- A session behind one of its two traits, with its own state hidden. -/
inductive OpenedSession : Type 1 where
  | observe {σ : Type} (session : ObservationSession σ) (state : σ)
  | effect {σ : Type} (session : EffectSession σ) (state : σ)

namespace OpenedSession

def profile : OpenedSession → DeviceProfile
  | observe session state => session.profile state
  | effect session state => session.profile state

/-- One call on the observation surface, which both variants have. -/
def observation (call : {σ : Type} → ObservationSession σ → σ → SessionAnswer × σ) :
    OpenedSession → SessionAnswer × OpenedSession
  | observe session state => (call session state).map id (observe session)
  | effect session state => (call session.toObservationSession state).map id (effect session)

/-- One call on the effect surface, where there is one. -/
def onEffect (call : {σ : Type} → EffectSession σ → σ → SessionAnswer × σ) :
    OpenedSession → Option SessionAnswer × OpenedSession
  | observe session state => (none, observe session state)
  | effect session state => (call session state).map some (effect session)

/-- All a caller can do with an opened session. -/
def machine : Machine OpenedSession SessionCall (Option SessionAnswer) where
  step opened call := match call with
    | .start => (opened.observation fun session state => (session.start state).map .done id).map some id
    | .poll kind => (opened.observation fun session state => (session.poll kind state).map .sample id).map some id
    | .stop => (opened.observation fun session state => (session.stop state).map .done id).map some id
    | .invoke request => opened.onEffect fun session state => (session.invoke request state).map .receipt id

end OpenedSession

structure StubProvider where
  profile : DeviceProfile
deriving DecidableEq, Repr

def StubProvider.session (provider : StubProvider) : StubSession := ⟨provider.profile⟩

/-- What the providers take from outside the repository, with one rendering of
expressions for all of them. -/
structure DeviceExternals (π ρ : Type) where
  debugLen : Expr → Nat
  build : TextBuild
  access : Access
  halo : Halo.HaloExternals
  viture : Viture.VitureExternals
  physical : Viture.DevicePhysicalSession ρ
  connect : π → Except Viture.VitureError ρ
  haloRenders : halo.debugLen = debugLen
  vitureRenders : viture.debugLen = debugLen

/-- The implementers of the device layer's `DeviceProvider` trait. -/
inductive SessionProvider (π : Type) where
  | stub (provider : StubProvider)
  | cassette (provider : ObservationCassette)
  | watch (provider : Wristbridge.WatchProvider)
  | halo (provider : Halo.HaloProvider)
  | viture (provider : Viture.VitureProvider π)

namespace SessionProvider
variable {π ρ : Type}

def profile : SessionProvider π → DeviceProfile
  | stub provider => provider.profile
  | cassette provider => provider.profile
  | watch provider => provider.profile
  | halo provider => provider.profile
  | viture provider => provider.profile

def openSession (externals : DeviceExternals π ρ) : SessionProvider π → Except DeviceError OpenedSession
  | stub _ => .error .unsupported
  | cassette provider => provider.open.map (.observe ObservationCassetteSession.session)
  | watch provider =>
    (provider.openSession externals.build).map (.effect (Wristbridge.WatchSession.session externals.debugLen externals.access))
  | halo provider =>
    (provider.openSession externals.halo.symbols).map (.effect (Halo.HaloSession.session externals.halo))
  | viture provider =>
    (provider.openSession externals.viture externals.connect).map
      (.effect (Viture.VitureSession.session externals.viture externals.physical))

end SessionProvider

end StreamHost
