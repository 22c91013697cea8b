import StreamHost.Cassette
import StreamHost.Config

/-! Opened host streams: a callback queue and the external driver behind it. -/

namespace StreamHost
variable {ν μ δ : Type}

/-- The trait of stream drivers: what a shutdown answers, and the driver's next state. -/
structure HostStreamDriver (δ : Type) where
  shutdown : δ → Result Unit × δ

/-- The same driver, with a record of what its shutdowns returned. -/
def HostStreamDriver.logged (driver : HostStreamDriver δ) : HostStreamDriver (δ × List (Result Unit)) where
  shutdown state :=
    let (result, next) := driver.shutdown state.1
    (result, next, state.2 ++ [result])

structure HostDriverHandle (δ : Type) where
  driver : δ
  closed : Bool

namespace HostDriverHandle

def new (driver : δ) : HostDriverHandle δ := ⟨driver, false⟩

/-- The flag is set before the driver is asked. -/
def shutdownOnce (driver : HostStreamDriver δ) (handle : HostDriverHandle δ) : Result Unit × HostDriverHandle δ :=
  if handle.closed then (.ok (), handle)
  else (driver.shutdown handle.driver).map id fun next => ⟨next, true⟩

end HostDriverHandle

/-- What builds a driver from a clone of the queue: it may use the queue before it answers. -/
abbrev DriverBuilder (μ δ : Type) := Machine.Client (QueueCall μ) (QueueAnswer μ) (Result δ)

structure HostOpenStream (ν δ : Type) where
  config : HostStreamConfig
  queue : HostCallbackQueue ν
  driver : Option (HostDriverHandle δ)

namespace HostOpenStream
variable (stream : PushStream ν μ) (driver : HostStreamDriver δ)

def new (config : HostStreamConfig) : HostOpenStream ν δ :=
  { config, queue := .new (.push stream config.metadata), driver := none }

def newWithDriver (config : HostStreamConfig) (driver : δ) : HostOpenStream ν δ :=
  { config, queue := .new (.push stream config.metadata), driver := some (.new driver) }

/-- The stream is given up with a driver that cannot be built. -/
def tryNewWithDriver (config : HostStreamConfig) (buildDriver : DriverBuilder μ δ) : Result (HostOpenStream ν δ) :=
  match buildDriver.run (HostCallbackQueue.machine stream) (.new (.push stream config.metadata)) with
  | (.error error, _) => .error error
  | (.ok driver, queue) => .ok { config, queue, driver := some (.new driver) }

def newRealtimeLocalAudio (clocks : ClockSymbols) (config : HostStreamConfig) : Result (HostOpenStream ν δ) := do
  config.validateRealtimeLocalAudio clocks
  return new stream config

def newRealtimeLocalAudioWithDriver (clocks : ClockSymbols) (config : HostStreamConfig) (driver : δ) :
    Result (HostOpenStream ν δ) := do
  config.validateRealtimeLocalAudio clocks
  return newWithDriver stream config driver

def tryNewRealtimeLocalAudioWithDriver (clocks : ClockSymbols) (config : HostStreamConfig)
    (buildDriver : DriverBuilder μ δ) : Result (HostOpenStream ν δ) := do
  config.validateRealtimeLocalAudio clocks
  tryNewWithDriver stream config buildDriver

def newLanMidiControl (clocks : ClockSymbols) (config : HostStreamConfig) : Result (HostOpenStream ν δ) := do
  config.validateLanMidiControl clocks
  return new stream config

def newLanBufferedAudioPreview (config : HostStreamConfig) : Result (HostOpenStream ν δ) := do
  config.validateLanBufferedAudioPreview
  return new stream config

def shutdownDriver (opened : HostOpenStream ν δ) : Result Unit × HostOpenStream ν δ :=
  match opened.driver with
  | some handle => (handle.shutdownOnce driver).map id fun next => { opened with driver := some next }
  | none => (.ok (), opened)

def close (opened : HostOpenStream ν δ) : Result Unit × HostOpenStream ν δ :=
  match opened.queue.close stream with
  | (.error error, queue) => (.error error, { opened with queue })
  | (.ok (), queue) => shutdownDriver driver { opened with queue }

def cancel (opened : HostOpenStream ν δ) : Result Unit × HostOpenStream ν δ :=
  match opened.queue.cancel stream with
  | (.error error, queue) => (.error error, { opened with queue })
  | (.ok (), queue) => shutdownDriver driver { opened with queue }

/-- An opened stream answers what its queue answers, except that it shuts its driver down at the end. -/
def machine : Machine (HostOpenStream ν δ) (QueueCall μ) (QueueAnswer μ) where
  step opened call := match call with
    | .close => (opened.close stream driver).map .closed id
    | .cancel => (opened.cancel stream driver).map .closed id
    | call => ((HostCallbackQueue.machine stream).step opened.queue call).map id fun queue => { opened with queue }

end HostOpenStream

/-- An opened stream and its clones. A clone copies the pointers to the queue's
stream and to the driver handle, so all of them share one of each. -/
structure StreamClones (ν δ : Type) where
  clones : Nat
  opened : HostOpenStream ν δ

inductive CloneCall where
  | clone
  | close (clone : Nat)
  | cancel (clone : Nat)
deriving DecidableEq, Repr

namespace StreamClones
variable (stream : PushStream ν μ) (driver : HostStreamDriver δ)

def first (opened : HostOpenStream ν δ) : StreamClones ν δ := ⟨1, opened⟩

/-- No answer when a clone is made or the named clone does not exist. -/
def machine : Machine (StreamClones ν δ) CloneCall (Option (Result Unit)) where
  step state call := match call with
    | .clone => (none, { state with clones := state.clones + 1 })
    | .close clone =>
      if clone < state.clones then
        (state.opened.close stream driver).map some fun opened => { state with opened }
      else (none, state)
    | .cancel clone =>
      if clone < state.clones then
        (state.opened.cancel stream driver).map some fun opened => { state with opened }
      else (none, state)

end StreamClones

end StreamHost
