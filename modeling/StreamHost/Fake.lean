import StreamHost.Registry

/-! The deterministic host backend used for validation and replay. -/

namespace StreamHost
variable {ν μ δ ω : Type}

def fakeBackendSymbol : Symbol := .qualified "stream/host" "fake"

def fakeClock (clocks : ClockSymbols) : StreamMedia → Symbol
  | .pcm => clocks.symbol .sample
  | .midi => clocks.symbol .midiTick
  | .diagnostic | .data => clocks.symbol .serverFrame

def fakeDevice (clocks : ClockSymbols) (buffer : BufferPolicy) (id : String) (media : StreamMedia)
    (direction : HostDirection) : HostDeviceSpec :=
  ⟨.new id, fakeBackendSymbol, media, direction, fakeClock clocks media, buffer⟩

def fakePort (id : String) (device : Symbol) (media : StreamMedia) (direction : HostDirection) : HostPortSpec :=
  ⟨.new id, device, fakeBackendSymbol, media, direction⟩

structure FakeBackend where
  info : HostBackendInfo
  inventory : HostDeviceInventory

namespace FakeBackend

/-- The buffers of all devices are bounded alike. -/
def new (clocks : ClockSymbols) (buffer : BufferPolicy) : FakeBackend where
  info := (HostBackendInfo.new fakeBackendSymbol (.qualified "stream/transport" "fake") .data false).withCapabilities
    [.fake, .offline, .midiInput, .audioOutput, .duplex]
  inventory := {
    backend := fakeBackendSymbol
    devices := [
      fakeDevice clocks buffer "fake/data" .data .input,
      fakeDevice clocks buffer "fake/data-duplex" .data .duplex,
      fakeDevice clocks buffer "fake/midi" .midi .input,
      fakeDevice clocks buffer "fake/pcm" .pcm .output]
    ports := [
      fakePort "fake/data/in" (.new "fake/data") .data .input,
      fakePort "fake/data-duplex/io" (.new "fake/data-duplex") .data .duplex,
      fakePort "fake/midi/in" (.new "fake/midi") .midi .input,
      fakePort "fake/pcm/out" (.new "fake/pcm") .pcm .output] }

def openStream (clocks : ClockSymbols) (stream : PushStream ν μ) (fake : FakeBackend)
    (request : HostStreamConfigRequest) : Result (HostOpenStream ν δ) := do
  .rejectIf (request.backend ≠ fake.info.id) (.eval s!"fake backend cannot open {request.backend} requests")
  match fake.inventory.devices.find? (·.id = request.device) with
  | none => .error (.eval s!"fake backend has no device {request.device}")
  | some device =>
    .rejectIf (device.media ≠ request.media)
      (.typeMismatch "request media matching fake device" "request media for another fake device")
    .rejectIf (device.direction ≠ request.direction)
      (.typeMismatch "request direction matching fake device" "request direction for another fake device")
    return .new stream (.fromRequest request ⟨0, 0⟩ ⟨fakeClock clocks device.media, none, true⟩)

def backend (clocks : ClockSymbols) (stream : PushStream ν μ) (fake : FakeBackend) : HostBackend ω ν δ where
  info := fake.info
  enumerate world := (.ok fake.inventory, world)
  openStream request world := (fake.openStream clocks stream request, world)

end FakeBackend

end StreamHost
