import StreamHost.Device
import StreamHost.Lib.Text

/-! Provider manifests, checked against the registry whose entries create the effect
callables. The fields that no check reads are left out. -/

namespace StreamHost

structure ProviderManifest where
  version : UInt16
  profile : String
  effects : List Symbol
  staleAfter : Duration
  cassette : String
deriving DecidableEq, Repr

namespace ProviderManifest

def secretWords : List String := ["secret", "token", "password"]

def checkReference (value : String) : DeviceResult Unit := do
  let lower := Text.lower value.toList
  .rejectIf (secretWords.any fun word => Text.contains word.toList lower)
    (.contract "provider manifest contains secret material")
  .rejectIf (value.isEmpty = true) (.contract "provider manifest has an empty content reference")

def checkEffect (registry : EffectRegistry) (effect : Symbol) : DeviceResult Unit :=
  .rejectIf ((registry.get effect).isNone = true) (.contract s!"undeclared effect descriptor {effect}")

def validate (manifest : ProviderManifest) (registry : EffectRegistry) : DeviceResult Unit := do
  .rejectIf (manifest.version ≠ 1) (.contract s!"unsupported provider manifest version {manifest.version}")
  .rejectIf (manifest.staleAfter = 0) (.contract "provider manifest has no stale bound")
  [manifest.profile, manifest.cassette].forM checkReference
  manifest.effects.forM (checkEffect registry)

end ProviderManifest

end StreamHost
