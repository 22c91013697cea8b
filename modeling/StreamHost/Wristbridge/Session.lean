import StreamHost.EffectSession
import StreamHost.Wristbridge.Command

/-! Watch session wiring. -/

namespace StreamHost.Wristbridge

structure WatchSession where
  profile : DeviceProfile
  route : WatchRouteKind
  events : List Expr
  sent : List WatchCommandPacket

namespace WatchSession

def new (build : Build) (route : WatchRouteKind) (events : List WornEvent) (profile : DeviceProfile) : WatchSession :=
  { profile, route, events := events.map (WornEvent.toExpr build), sent := [] }

def start (session : WatchSession) : DeviceResult Unit × WatchSession := (.ok (), session)

def poll (kind : String) (session : WatchSession) : DeviceResult (Option Expr) × WatchSession :=
  if kind = wornEventSampleKind then (.ok session.events.head?, { session with events := session.events.tail })
  else (.ok none, session)

def stop (session : WatchSession) : DeviceResult Unit × WatchSession := (.ok (), session)

def descriptor : EffectDescriptor := standardEffectDescriptor "watch-command"

def invoke (debugLen : Expr → Nat) (access : Access) (request : EffectRequest) (session : WatchSession) :
    DeviceResult EffectReceipt × WatchSession :=
  match descriptor.authorize debugLen request with
  | .error error => (.error error, session)
  | .ok () =>
    match encodeWatchCommand access session.route request.payload with
    | .error error => (.error error, session)
    | .ok packet =>
      let sent := session.sent ++ [packet]
      (.ok ⟨descriptor.receipt, descriptor.id, UInt64.ofNat sent.length⟩, { session with sent })

def session (debugLen : Expr → Nat) (access : Access) : EffectSession WatchSession where
  profile := WatchSession.profile
  start := start
  poll := poll
  stop := stop
  invoke := invoke debugLen access

end WatchSession

end StreamHost.Wristbridge
