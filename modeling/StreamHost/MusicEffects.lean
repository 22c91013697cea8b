import StreamHost.Device

/-! The reviewed effects of the music vertical and the registry of exactly those. -/

namespace StreamHost

inductive MusicEffect where
  | midiSend
  | audioRouteOpen
  | audioRouteClose
  | emergencyStop
deriving DecidableEq, Repr

namespace MusicEffect

def name : MusicEffect → String
  | midiSend => "music-midi-send"
  | audioRouteOpen => "music-audio-route-open"
  | audioRouteClose => "music-audio-route-close"
  | emergencyStop => "music-emergency-stop"

def descriptor (effect : MusicEffect) : EffectDescriptor where
  id := .qualified "device/effect" effect.name
  shape := .qualified "shape/music-effect" effect.name
  capability := .new s!"music.effect.{effect.name}"
  bounds := { maxRequestBytes := 4096, maxInvocations := 4096 }
  requiresArm := true
  expiresAfter := .fromSecs 5
  receipt := .qualified "music/effect-receipt" effect.name
  idempotence := .keyed
  reversal := match effect with
    | audioRouteOpen => .effect (.qualified "device/effect" audioRouteClose.name)
    | _ => .irreversible
  localStop := .qualified "device/effect" emergencyStop.name

end MusicEffect

def musicEffectRegistry : DeviceResult EffectRegistry :=
  EffectRegistry.new ([.midiSend, .audioRouteOpen, .audioRouteClose, .emergencyStop].map MusicEffect.descriptor)

/-- The test fixture of a grant for one music effect under a caller key. -/
def musicRequest (effect : MusicEffect) (key : String) (armedAtMs invokedAtMs : UInt64) : EffectRequest :=
  effect.descriptor.armedRequest (.bool true) key armedAtMs invokedAtMs

end StreamHost
