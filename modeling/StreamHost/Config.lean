import StreamHost.Lib.Result
import StreamHost.StreamCore

/-! Host stream configuration records. -/

namespace StreamHost

/-- Direction of a host stream relative to the device. -/
inductive HostDirection where
  | input
  | output
  | duplex
deriving DecidableEq, Repr

def HostDirection.streamDirection : HostDirection → StreamDirection
  | input => .source
  | output => .sink
  | duplex => .duplex

structure HostReconnectPolicy where
  enabled : Bool
  maxAttempts : UInt32
  backoffMs : UInt32
deriving DecidableEq, Repr

def HostReconnectPolicy.disabled : HostReconnectPolicy := ⟨false, 0, 0⟩

structure HostLatencyInfo where
  inputFrames : UInt32
  outputFrames : UInt32
deriving DecidableEq, Repr

structure HostClockInfo where
  clock : Symbol
  sampleRateHz : Option UInt32
  stable : Bool
deriving DecidableEq, Repr

structure HostStreamConfigRequest where
  backend : Symbol
  device : Symbol
  media : StreamMedia
  direction : HostDirection
  buffer : BufferPolicy
  clock : Symbol
  reconnect : HostReconnectPolicy
deriving DecidableEq, Repr

structure HostStreamConfig where
  backend : Symbol
  device : Symbol
  media : StreamMedia
  direction : HostDirection
  buffer : BufferPolicy
  clock : HostClockInfo
  latency : HostLatencyInfo
  reconnect : HostReconnectPolicy
deriving DecidableEq, Repr

namespace HostStreamConfig

def fromRequest (request : HostStreamConfigRequest) (latency : HostLatencyInfo) (clock : HostClockInfo) :
    HostStreamConfig where
  backend := request.backend
  device := request.device
  media := request.media
  direction := request.direction
  buffer := request.buffer
  clock := clock
  latency := latency
  reconnect := request.reconnect

def metadata (config : HostStreamConfig) : StreamMetadata where
  id := config.device
  media := config.media
  direction := config.direction.streamDirection
  clock := config.clock.clock
  buffer := config.buffer

def validateRealtimeLocalAudio (clocks : ClockSymbols) (config : HostStreamConfig) : Result Unit := do
  .rejectIf (config.media ≠ .pcm) (.eval "realtime local audio host streams require PCM media")
  let domain ← clocks.fromSymbol config.clock.clock
  .rejectIf (domain ≠ .sample) (.eval "realtime local audio host streams require the sample clock domain")
  .rejectIf (config.buffer.capacity = 0) (.eval "realtime local audio host streams require a bounded buffer")

def validateLanMidiControl (clocks : ClockSymbols) (config : HostStreamConfig) : Result Unit := do
  .rejectIf (config.media ≠ .midi) (.eval "LAN MIDI/control host streams require MIDI media")
  let domain ← clocks.fromSymbol config.clock.clock
  .rejectIf (domain ≠ .midiTick ∧ domain ≠ .control)
    (.eval "LAN MIDI/control host streams require a MIDI tick or control clock domain")
  .rejectIf (config.buffer.capacity = 0) (.eval "LAN MIDI/control host streams require a bounded buffer")

/-- No clock domain is asked for. -/
def validateLanBufferedAudioPreview (config : HostStreamConfig) : Result Unit := do
  .rejectIf (config.media ≠ .pcm) (.eval "LAN buffered audio preview host streams require PCM media")
  .rejectIf (config.buffer.capacity = 0) (.eval "LAN buffered audio preview host streams require a bounded buffer")

end HostStreamConfig

end StreamHost
