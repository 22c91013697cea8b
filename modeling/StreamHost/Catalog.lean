import Mathlib.Data.List.Destutter
import StreamHost.Model
import StreamHost.Router

/-! The catalog of host devices: its rows, the providers that own them, and opens
under the authority of a row. -/

namespace StreamHost
open Std

variable {κ ω : Type}

inductive Placement where
  | modeled
  | hardware (transport : Symbol)
deriving DecidableEq, Repr

inductive DeviceKind where
  | audio
  | midi
deriving DecidableEq, Repr

inductive DeviceDirection where
  | input
  | output
  | duplex
deriving DecidableEq, Repr

def DeviceDirection.effectKinds : DeviceDirection → List Symbol
  | input => [streamHostDeviceReadEffectKind]
  | output => [streamHostDeviceWriteEffectKind]
  | duplex => [streamHostDeviceReadEffectKind, streamHostDeviceWriteEffectKind]

structure DeviceRecord where
  id : Symbol
  displayName : String
  kind : DeviceKind
  direction : DeviceDirection
  placement : Placement
deriving DecidableEq, Repr

namespace DeviceRecord

def planBackendSymbol (record : DeviceRecord) : Symbol :=
  match record.placement with
  | .modeled => .qualified "stream/host" "modeled-catalog"
  | .hardware transport => transport

def openPlan (record : DeviceRecord) : HostOpenPlan where
  backend := record.planBackendSymbol
  device := record.id
  effectKinds := record.direction.effectKinds
  requires := [streamHostCapability]

def modeled (id name : String) (kind : DeviceKind) (direction : DeviceDirection) : DeviceRecord :=
  ⟨.new id, name, kind, direction, .modeled⟩

def modeledMidiInput (id name : String) : DeviceRecord := modeled id name .midi .input

def modeledMidiOutput (id name : String) : DeviceRecord := modeled id name .midi .output

/-- A card without channels counts as an output. -/
def audioFromCard (card : AudioDeviceCard) (placement : Placement) : DeviceRecord where
  id := card.key.symbol
  displayName := card.displayName
  kind := .audio
  direction := match decide (card.channelsIn > 0), decide (card.channelsOut > 0) with
    | true, true => .duplex
    | true, false => .input
    | false, true | false, false => .output
  placement := placement

def modeledAudioFromCard (card : AudioDeviceCard) : DeviceRecord := audioFromCard card .modeled

/-- In the order of the printed ids, rows of one id in the order they came. -/
def sortById (records : List DeviceRecord) : List DeviceRecord :=
  records.mergeSort fun left right => (compare left.id.asQualifiedStr right.id.asQualifiedStr).isLE

/-- The first row of the id, for the provider of that name. -/
def lookup (provider : String) (records : List DeviceRecord) (id : Symbol) : Result DeviceRecord :=
  match records.find? (·.id = id) with
  | some record => .ok record
  | none => .error (.eval s!"{provider}: unknown id '{id}'")

end DeviceRecord

/-- An open site, as far as the catalog's own sites go: it opened no live MIDI session. -/
structure StreamEvalSite where
  placement : Placement
  deviceRecord : DeviceRecord
deriving DecidableEq, Repr

def modeledMidiEvalSite (record : DeviceRecord) : StreamEvalSite := ⟨record.placement, record⟩

def modeledAudioEvalSite (record : DeviceRecord) : StreamEvalSite := ⟨record.placement, record⟩

def providerAudioSite (record : DeviceRecord) : StreamEvalSite := ⟨record.placement, record⟩

/-- The trait of device providers, over the outside world. -/
structure DeviceProvider (ω : Type) where
  enumerate : ω → Result (List DeviceRecord) × ω
  openSite : Symbol → ω → Result StreamEvalSite × ω

/-- The same provider, with a record of the ids it was asked to open. -/
def DeviceProvider.logged (provider : DeviceProvider ω) : DeviceProvider (ω × List Symbol) where
  enumerate world := (provider.enumerate world.1).map id (·, world.2)
  openSite id world := (provider.openSite id world.1).map (fun site => site) (·, world.2 ++ [id])

structure ModeledMidiProvider where
  ports : List DeviceRecord

structure ModeledAudioProvider where
  records : List DeviceRecord

structure ProviderAudioSites where
  records : List DeviceRecord

structure RegistryAudioDevices where
  records : List DeviceRecord

namespace ModeledMidiProvider

def default : ModeledMidiProvider := ⟨[.modeledMidiInput "midi/model/in-0" "Modeled MIDI Input 0",
  .modeledMidiOutput "midi/model/out-0" "Modeled MIDI Output 0"]⟩

def provider (midi : ModeledMidiProvider) : DeviceProvider ω where
  enumerate world := (.ok midi.ports, world)
  openSite id world := ((DeviceRecord.lookup "ModeledMidiProvider" midi.ports id).map modeledMidiEvalSite, world)

end ModeledMidiProvider

namespace ModeledAudioProvider

def default : ModeledAudioProvider :=
  ⟨[.modeledAudioFromCard (.modeled (.new "audio/model/stereo-0") "Modeled Audio Stereo 0")]⟩

def provider (audio : ModeledAudioProvider) : DeviceProvider ω where
  enumerate world := (.ok audio.records, world)
  openSite id world := ((DeviceRecord.lookup "ModeledAudioProvider" audio.records id).map modeledAudioEvalSite, world)

end ModeledAudioProvider

namespace ProviderAudioSites

/-- What the catalog shows of one registered site: its own card names it, whatever key it is
registered under. -/
def siteRecord {Site : Type} [AudioSite Site] (registered : RegisteredAudioSite Site) : DeviceRecord :=
  let card := AudioSite.card registered.site
  .audioFromCard card (if card.hardwareRequired then .hardware registered.owner else .modeled)

/-- The rows of a router whose map lists its sites in this order. -/
def fromRegistered {Site : Type} [AudioSite Site] {router : AudioRouter Site} (registered : router.RegisteredSites) :
    ProviderAudioSites :=
  ⟨DeviceRecord.sortById (registered.val.map siteRecord)⟩

def fromRouter {Site : Type} [AudioSite Site] (router : AudioRouter Site) : ProviderAudioSites :=
  fromRegistered router.byKey

def provider (sites : ProviderAudioSites) : DeviceProvider ω where
  enumerate world := (.ok sites.records, world)
  openSite id world := ((DeviceRecord.lookup "ProviderAudioSites" sites.records id).map providerAudioSite, world)

end ProviderAudioSites

inductive ExportState where
  | invalid
  | other
deriving DecidableEq, Repr

inductive ExportKind where
  | site
  | other (name : String)
deriving DecidableEq, Repr

structure ExportRecord where
  kind : ExportKind
  symbol : Symbol
  state : ExportState
deriving DecidableEq, Repr

/-- The kernel's library registry, as far as the catalog reads it: the exports of each loaded library. -/
structure LibRegistry where
  libs : List (List ExportRecord)

def registryAudioSiteRecord (record : ExportRecord) : Option DeviceRecord :=
  if record.kind ≠ .site then none
  else if record.symbol.ns ≠ some "audio/site" then none
  else if record.state = .invalid then none
  else some ⟨record.symbol, s!"{record.symbol.name} audio site", .audio, .duplex, .hardware record.symbol⟩

namespace RegistryAudioDevices

def fromRegistry (registry : LibRegistry) : RegistryAudioDevices :=
  ⟨(DeviceRecord.sortById (registry.libs.flatten.filterMap registryAudioSiteRecord)).destutter
    fun left right => left.id ≠ right.id⟩

def provider (devices : RegistryAudioDevices) : DeviceProvider ω where
  enumerate world := (.ok devices.records, world)
  openSite id world := ((DeviceRecord.lookup "RegistryAudioDevices" devices.records id).map providerAudioSite, world)

end RegistryAudioDevices

structure DeviceCatalog (ω : Type) where
  providers : List (DeviceProvider ω)

namespace DeviceCatalog

def new : DeviceCatalog ω := ⟨[]⟩

def register (provider : DeviceProvider ω) (catalog : DeviceCatalog ω) : DeviceCatalog ω :=
  ⟨catalog.providers ++ [provider]⟩

def defaultModeled : DeviceCatalog ω :=
  (new.register ModeledMidiProvider.default.provider).register ModeledAudioProvider.default.provider

/-- `registerProviderSites` over one order of the router's map. -/
def registerRegisteredSites {Site : Type} [AudioSite Site] {router : AudioRouter Site}
    (registered : router.RegisteredSites) (catalog : DeviceCatalog ω) : DeviceCatalog ω :=
  if (ProviderAudioSites.fromRegistered registered).records.isEmpty then catalog
  else catalog.register (ProviderAudioSites.fromRegistered registered).provider

def registerProviderSites {Site : Type} [AudioSite Site] (router : AudioRouter Site) (catalog : DeviceCatalog ω) :
    DeviceCatalog ω := catalog.registerRegisteredSites router.byKey

def registerRegistryAudioDevices (registry : LibRegistry) (catalog : DeviceCatalog ω) : DeviceCatalog ω :=
  if (RegistryAudioDevices.fromRegistry registry).records.isEmpty then catalog
  else catalog.register (RegistryAudioDevices.fromRegistry registry).provider

def logged (catalog : DeviceCatalog ω) : DeviceCatalog (ω × List Symbol) := ⟨catalog.providers.map .logged⟩

def enumerateAll : List (DeviceProvider ω) → ω → Result (List DeviceRecord) × ω
  | [], world => (.ok [], world)
  | provider :: rest, world =>
    match provider.enumerate world with
    | (.error error, world) => (.error error, world)
    | (.ok records, world) => (enumerateAll rest world).map (Except.map (records ++ ·)) id

def enumerate (catalog : DeviceCatalog ω) (world : ω) : Result (List DeviceRecord) × ω :=
  enumerateAll catalog.providers world

def enumerateKind (kind : DeviceKind) (catalog : DeviceCatalog ω) (world : ω) : Result (List DeviceRecord) × ω :=
  (catalog.enumerate world).map (Except.map fun records => records.filter (·.kind = kind)) id

def pushUnique (names : List String) (name : String) : List String :=
  if names.any (· = name) then names else names ++ [name]

/-- One round of the loop over the rows: the names so far and whether a modeled row was seen. -/
def noteBackend : List String × Bool → DeviceRecord → List String × Bool
  | (names, hasModeled), record =>
    match record.placement with
    | .modeled => (names, true)
    | .hardware transport => (pushUnique names transport.name, hasModeled)

def backendNamesOf (kind : DeviceKind) (includeModeledFallback : Bool) (records : List DeviceRecord) : List String :=
  let (names, hasModeled) := (records.filter (·.kind = kind)).foldl noteBackend ([], false)
  if includeModeledFallback && (hasModeled || names.isEmpty) then pushUnique names "modeled" else names

def backendNames (kind : DeviceKind) (includeModeledFallback : Bool) (catalog : DeviceCatalog ω) (world : ω) :
    Result (List String) × ω :=
  (catalog.enumerate world).map (Except.map (backendNamesOf kind includeModeledFallback)) id

def audioBackendNames (catalog : DeviceCatalog ω) : ω → Result (List String) × ω := catalog.backendNames .audio true

def midiBackendNames (catalog : DeviceCatalog ω) : ω → Result (List String) × ω := catalog.backendNames .midi true

def audioHardwareBackendNames (catalog : DeviceCatalog ω) : ω → Result (List String) × ω :=
  catalog.backendNames .audio false

def midiHardwareBackendNames (catalog : DeviceCatalog ω) : ω → Result (List String) × ω :=
  catalog.backendNames .midi false

def noDevice (id : Symbol) : Error := .eval s!"DeviceCatalog: no device '{id}'"

/-- The first provider that lists the id opens it. -/
def openFirst : List (DeviceProvider ω) → Symbol → ω → Result StreamEvalSite × ω
  | [], id, world => (.error (noDevice id), world)
  | provider :: rest, id, world =>
    match provider.enumerate world with
    | (.error error, world) => (.error error, world)
    | (.ok records, world) =>
      if records.any (·.id = id) then provider.openSite id world else openFirst rest id world

def openSite (catalog : DeviceCatalog ω) (id : Symbol) (world : ω) : Result StreamEvalSite × ω :=
  openFirst catalog.providers id world

def openChecked (context : HostContext κ) (catalog : DeviceCatalog ω) (cx : κ) (id : Symbol) (world : ω) :
    Result StreamEvalSite × κ × ω :=
  match catalog.enumerate world with
  | (.error error, world) => (.error error, cx, world)
  | (.ok records, world) =>
    match records.find? (·.id = id) with
    | none => (.error (noDevice id), cx, world)
    | some record =>
      match record.openPlan.enforce context cx with
      | (.error error, cx) => (.error error, cx, world)
      | (.ok (), cx) => (catalog.openSite id world).map (fun site => site) (cx, ·)

end DeviceCatalog

end StreamHost
