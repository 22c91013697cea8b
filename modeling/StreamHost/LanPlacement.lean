import StreamHost.Lib.Saturating
import StreamHost.StreamCore

/-! LAN peer placement policy for stream fragments. The stream core's profiles, bridges
and envelope checks are parameters. -/

namespace StreamHost

def lanPeerSiteSymbol : Symbol := .qualified "stream/site" "lan-peer"

def lanJitterBufferedModeSymbol : Symbol := .qualified "stream/lan-mode" "jitter-buffered"

def lanBarDelayModeSymbol : Symbol := .qualified "stream/lan-mode" "collab-bardelay"

def lanPinnedSampleRefusalDiagnostic : Symbol := .qualified "stream/lan-diagnostic" "pinned-sample-remote-refused"

def lanPinnedSampleExperimentalDiagnostic : Symbol :=
  .qualified "stream/lan-diagnostic" "pinned-sample-remote-experimental"

def lanExperimentalRemoteSampleCapability : CapabilityName := .new "stream.lan.experimental-remote-sample"

def defaultBeatsPerBar : UInt32 := 4

inductive LatencyClass where
  | bufferedPreview
  | collabBarDelay
  | other (name : String)
deriving DecidableEq, Repr

inductive StreamCapability where
  | remote
  | bounded
  | preview
  | lossy
  | other (name : String)
deriving DecidableEq, Repr

/-- What stops a program for good. -/
inductive Panic where
  | divideByZero
deriving DecidableEq, Repr

/-- The division of words, which panics on a zero divisor. -/
def divide (number divisor : UInt64) : Except Panic UInt64 :=
  if divisor = 0 then .error .divideByZero else .ok (number / divisor)

/-- The mode's fields are public: a value need not come from `jitterBuffered` or `barDelay`. -/
inductive LanPlacementMode where
  | JitterBuffered (jitterPackets : UInt32) (latencyCompFrames : UInt64)
  | BarDelay (bars beatsPerBar tempoBpm jitterPackets : UInt32) (latencyCompFrames : UInt64)
deriving DecidableEq, Repr

namespace LanPlacementMode

def jitterBuffered (jitterPackets : UInt32) (latencyCompFrames : UInt64) : Result LanPlacementMode :=
  if jitterPackets = 0 then .error (.eval "LAN jitter buffer must retain at least one packet")
  else .ok (.JitterBuffered jitterPackets latencyCompFrames)

def barDelay (bars tempoBpm jitterPackets : UInt32) (latencyCompFrames : UInt64) : Result LanPlacementMode :=
  if bars = 0 then .error (.eval "LAN bar-delay mode must delay at least one bar")
  else if tempoBpm = 0 then .error (.eval "LAN bar-delay mode tempo must be greater than zero")
  else if jitterPackets = 0 then .error (.eval "LAN jitter buffer must retain at least one packet")
  else .ok (.BarDelay bars defaultBeatsPerBar tempoBpm jitterPackets latencyCompFrames)

def symbol : LanPlacementMode → Symbol
  | JitterBuffered .. => lanJitterBufferedModeSymbol
  | BarDelay .. => lanBarDelayModeSymbol

def latencyClass : LanPlacementMode → LatencyClass
  | JitterBuffered .. => .bufferedPreview
  | BarDelay .. => .collabBarDelay

def jitterPackets : LanPlacementMode → UInt32
  | JitterBuffered jitterPackets _ | BarDelay _ _ _ jitterPackets _ => jitterPackets

def latencyCompFrames : LanPlacementMode → UInt64
  | JitterBuffered _ latencyCompFrames | BarDelay _ _ _ _ latencyCompFrames => latencyCompFrames

def barDelayMillis : LanPlacementMode → Except Panic (Option UInt64)
  | JitterBuffered .. => .ok none
  | BarDelay bars beatsPerBar tempoBpm _ _ =>
    (divide ((bars.toUInt64.saturatingMul beatsPerBar.toUInt64).saturatingMul 60000) tempoBpm.toUInt64).map some

end LanPlacementMode

/-- The stream core's own types. -/
structure CoreTypes where
  PacketId : Type
  Tick : Type
  Packet : Type
  Profile : Type
  Bridge : Type
  BridgeLatency : Type

structure StreamEnvelope (types : CoreTypes) where
  streamId : Symbol
  packetId : types.PacketId
  media : StreamMedia
  direction : StreamDirection
  sequence : UInt64
  ticks : List types.Tick
  clockDomain : ClockDomain
  clockDomains : List ClockDomain
  profile : types.Profile
  diagnostics : List Symbol
  packet : types.Packet

/-- A fragment to place. Of an edge, only its rate contract's clock domain is read. -/
structure PlacedFragment (types : CoreTypes) where
  id : Symbol
  inputEdges : List ClockDomain
  outputEdges : List ClockDomain
  outputEnvelopes : List (StreamEnvelope types)

/-- The stream core's functions. `newWithClockDomains` builds the envelope of the given fields. -/
structure PlacementCore (types : CoreTypes) where
  latencyClassSymbol : LatencyClass → Symbol
  lanBufferedAudioPreview : types.Profile
  profile : Symbol → LatencyClass → List StreamCapability → Result types.Profile
  profileName : types.Profile → Symbol
  newWithClockDomains : StreamEnvelope types → Result (StreamEnvelope types)
  jitterBuffer : UInt32 → types.Bridge
  latencyCompDelay : UInt64 → types.Bridge
  bridgeKindSymbol : types.Bridge → Symbol
  bridgeLatency : types.Bridge → types.BridgeLatency
  zeroLatency : types.BridgeLatency
  plus : types.BridgeLatency → types.BridgeLatency → types.BridgeLatency
  frameCount : types.BridgeLatency → Nat
  packetCount : types.BridgeLatency → Nat

variable {types : CoreTypes}

namespace LanPlacementMode

def transportProfile (core : PlacementCore types) : LanPlacementMode → Result types.Profile
  | JitterBuffered .. => .ok core.lanBufferedAudioPreview
  | BarDelay .. => core.profile (.qualified "stream/profile" "lan-collab-bardelay") .collabBarDelay
      [.remote, .bounded, .preview, .lossy]

def bridges (core : PlacementCore types) (mode : LanPlacementMode) : List types.Bridge :=
  [core.jitterBuffer mode.jitterPackets, core.latencyCompDelay mode.latencyCompFrames]

end LanPlacementMode

/-- The envelope under the remote profile, with the diagnostics after its own. -/
def StreamEnvelope.remote (profile : types.Profile) (diagnostics : List Symbol) (envelope : StreamEnvelope types) :
    StreamEnvelope types :=
  { envelope with profile := profile, diagnostics := envelope.diagnostics ++ diagnostics }

def remoteOutputEnvelopes (core : PlacementCore types) (envelopes : List (StreamEnvelope types))
    (profile : types.Profile) (diagnostics : List Symbol) : Result (List (StreamEnvelope types)) :=
  envelopes.mapM fun envelope => core.newWithClockDomains (envelope.remote profile diagnostics)

structure LanPlacementReport (types : CoreTypes) where
  fragmentId : Symbol
  site : Symbol
  mode : LanPlacementMode
  bridges : List types.Bridge
  outputEnvelopes : List (StreamEnvelope types)
  diagnostics : List Symbol

structure LanPlacementRequest (types : CoreTypes) where
  fragment : PlacedFragment types
  mode : LanPlacementMode
  realtimePinned : Bool
  capabilities : List CapabilityName

namespace LanPlacementRequest

def new (fragment : PlacedFragment types) (mode : LanPlacementMode) : LanPlacementRequest types :=
  ⟨fragment, mode, false, []⟩

def withRealtimePin (realtimePinned : Bool) (request : LanPlacementRequest types) : LanPlacementRequest types :=
  { request with realtimePinned := realtimePinned }

def withCapability (capability : CapabilityName) (request : LanPlacementRequest types) : LanPlacementRequest types :=
  { request with capabilities := request.capabilities ++ [capability] }

def fragmentHasSampleDomain (request : LanPlacementRequest types) : Bool :=
  (request.fragment.inputEdges ++ request.fragment.outputEdges).any (· = .sample)

def experimental (request : LanPlacementRequest types) : Bool :=
  request.capabilities.contains lanExperimentalRemoteSampleCapability

def diagnostics (request : LanPlacementRequest types) : List Symbol :=
  if request.realtimePinned && request.fragmentHasSampleDomain then [lanPinnedSampleExperimentalDiagnostic] else []

def plan (core : PlacementCore types) (request : LanPlacementRequest types) : Result (LanPlacementReport types) :=
  if request.realtimePinned && request.fragmentHasSampleDomain && !request.experimental then
    .error (.eval s!"{lanPinnedSampleRefusalDiagnostic.asQualifiedStr}: pinned sample-domain nodes cannot be sample-locked across LAN")
  else do
    let profile ← request.mode.transportProfile core
    let outputEnvelopes ← remoteOutputEnvelopes core request.fragment.outputEnvelopes profile request.diagnostics
    return ⟨request.fragment.id, lanPeerSiteSymbol, request.mode, request.mode.bridges core, outputEnvelopes,
      request.diagnostics⟩

end LanPlacementRequest

namespace LanPlacementReport

def latencyClass (report : LanPlacementReport types) : LatencyClass := report.mode.latencyClass

def addedBridgeLatency (core : PlacementCore types) (report : LanPlacementReport types) : types.BridgeLatency :=
  report.bridges.foldl (fun latency bridge => core.plus latency (core.bridgeLatency bridge)) core.zeroLatency

def barDelayMillis (report : LanPlacementReport types) : Except Panic (Option UInt64) := report.mode.barDelayMillis

def toExpr (core : PlacementCore types) (report : LanPlacementReport types) : Except Panic Expr := do
  let latency := report.addedBridgeLatency core
  let barDelay ← report.barDelayMillis
  return .map [
    (.symbol (.new "fragment"), .symbol report.fragmentId),
    (.symbol (.new "site"), .symbol report.site),
    (.symbol (.new "mode"), .symbol report.mode.symbol),
    (.symbol (.new "latency-class"), .symbol (core.latencyClassSymbol report.latencyClass)),
    (.symbol (.new "bar-delay-ms"), .string (toString (barDelay.getD 0).toNat)),
    (.symbol (.new "bridge-latency-frames"), .string (toString (core.frameCount latency))),
    (.symbol (.new "bridge-latency-packets"), .string (toString (core.packetCount latency))),
    (.symbol (.new "bridges"), .list (report.bridges.map fun bridge => .symbol (core.bridgeKindSymbol bridge))),
    (.symbol (.new "diagnostics"), .list (report.diagnostics.map .symbol)),
    (.symbol (.new "output-profiles"),
      .list (report.outputEnvelopes.map fun envelope => .symbol (core.profileName envelope.profile)))]

end LanPlacementReport

end StreamHost
