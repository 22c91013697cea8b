import StreamHost.Registry

/-! The RTP-MIDI host backend and its opened port. -/

namespace StreamHost
variable {κ ν μ δ ω ε : Type}

def rtpMidiBackendSymbol : Symbol := .qualified "stream/host" "rtp-midi"

/-- What the backend takes from the stream core. -/
structure RtpMidiExternals (ν μ : Type) where
  clocks : ClockSymbols
  bounded : UInt64 → Result BufferPolicy
  stream : PushStream ν μ

namespace RtpMidiBackend

def info : HostBackendInfo :=
  (HostBackendInfo.new rtpMidiBackendSymbol (.qualified "stream/transport" "rtp-midi") .midi false).withCapabilities
    [.midiInput, .offline]

variable (externals : RtpMidiExternals ν μ)

def sourceSpec (id : String) (capacity : UInt64) : Result HostDeviceSpec := do
  let buffer ← externals.bounded capacity
  return ⟨.new id, rtpMidiBackendSymbol, .midi, .input, externals.clocks.symbol .midiTick, buffer⟩

def enumerate : Result HostDeviceInventory := do
  let device ← sourceSpec externals "rtp-midi/default" 8
  return {
    backend := rtpMidiBackendSymbol
    devices := [device]
    ports := [⟨.new "rtp-midi/default/in", .new "rtp-midi/default", rtpMidiBackendSymbol, .midi, .input⟩] }

def deviceForRequest (request : HostStreamConfigRequest) : Result HostDeviceSpec := do
  let inventory ← enumerate externals
  match inventory.devices.find? (·.id = request.device) with
  | some device => return device
  | none => .error (.eval s!"unknown RTP-MIDI device {request.device}")

def openStream (request : HostStreamConfigRequest) : Result (HostOpenStream ν δ) := do
  .rejectIf (request.backend ≠ info.id) (.eval s!"RTP-MIDI backend cannot open {request.backend} requests")
  let device ← deviceForRequest externals request
  .rejectIf (device.media ≠ request.media) (.typeMismatch "MIDI host stream request" "non-MIDI host stream request")
  .rejectIf (device.direction ≠ request.direction)
    (.typeMismatch "RTP-MIDI input or duplex stream request" "request direction for another RTP-MIDI device")
  HostOpenStream.newLanMidiControl externals.stream externals.clocks
    (.fromRequest request ⟨0, 0⟩ ⟨request.clock, none, true⟩)

def backend : HostBackend ω ν δ where
  info := info
  enumerate world := (enumerate externals, world)
  openStream request world := (openStream externals request, world)

end RtpMidiBackend

/-- An opened source port and its callback queue. -/
structure RtpMidiPort (ν : Type) where
  spec : HostDeviceSpec
  queue : HostCallbackQueue ν

def RtpMidiBackend.openSource (context : HostContext κ) (stream : PushStream ν μ) (cx : κ) (spec : HostDeviceSpec) :
    Result (RtpMidiPort ν) × κ :=
  if spec.backend ≠ info.id then
    (.error (.eval s!"RTP-MIDI backend cannot open {spec.backend} device specs"), cx)
  else if spec.media ≠ .midi then (.error (.typeMismatch "MIDI host device" "non-MIDI host device"), cx)
  else if spec.direction = .output then
    (.error (.typeMismatch "RTP-MIDI input or duplex device" "output-only host device"), cx)
  else
    (spec.openPlan.enforce context cx).map (Except.map fun _ => ⟨spec, .new (.push stream spec.metadata)⟩) id

namespace RtpMidiPort
variable (stream : PushStream ν μ)

/-- The outcome of the push is dropped. -/
def receivePacketFromCallback (packet : μ) (port : RtpMidiPort ν) : Result Unit × RtpMidiPort ν :=
  (port.queue.callbackPacket stream (.midi packet)).map (Except.map fun _ => ()) ({ port with queue := · })

/-- `fromItem` describes an item by an envelope under the LAN MIDI/control profile. -/
def receiveEnvelopeFromCallback (fromItem : StreamMetadata → UInt64 → StreamItem μ → Result ε) (sequence : UInt64)
    (packet : μ) (port : RtpMidiPort ν) : Result ε × RtpMidiPort ν :=
  let item : StreamItem μ := ⟨.midi packet⟩
  match fromItem port.spec.metadata sequence item with
  | .error error => (.error error, port)
  | .ok envelope => (port.queue.callbackItem stream item).map (Except.map fun _ => envelope) ({ port with queue := · })

def drain (limit : UInt64) (port : RtpMidiPort ν) : Result (List (StreamItem μ)) × RtpMidiPort ν :=
  (port.queue.drain stream limit).map id ({ port with queue := · })

def close (port : RtpMidiPort ν) : Result Unit × RtpMidiPort ν :=
  (port.queue.close stream).map id ({ port with queue := · })

end RtpMidiPort

inductive PortCall (μ : Type) where
  | receiveEnvelope (sequence : UInt64) (packet : μ)
  | receivePacket (packet : μ)
  | drain (limit : UInt64)
  | close
deriving DecidableEq, Repr

inductive PortAnswer (μ ε : Type) where
  | envelope (result : Result ε)
  | received (result : Result Unit)
  | drained (result : Result (List (StreamItem μ)))
  | closed (result : Result Unit)

def RtpMidiPort.machine (stream : PushStream ν μ) (fromItem : StreamMetadata → UInt64 → StreamItem μ → Result ε) :
    Machine (RtpMidiPort ν) (PortCall μ) (PortAnswer μ ε) where
  step port call := match call with
    | .receiveEnvelope sequence packet => (port.receiveEnvelopeFromCallback stream fromItem sequence packet).map .envelope id
    | .receivePacket packet => (port.receivePacketFromCallback stream packet).map .received id
    | .drain limit => (port.drain stream limit).map .drained id
    | .close => (port.close stream).map .closed id

end StreamHost
