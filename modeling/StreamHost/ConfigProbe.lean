import StreamHost.Catalog

/-! The configuration probe for stream-host defaults: the backend candidates of a
catalog, as lists and as regular expressions. -/

namespace StreamHost

variable {ω : Type}

def defaultSampleRateHz : UInt32 := 48000

def defaultMaxBlockFrames : UInt32 := 512

def emittedKeys : List String := ["audio_backend_candidates", "midi_backend_candidates", "audio_backend_regex",
  "midi_backend_regex", "sample_rate_hz", "max_block_frames"]

def streamHostConfigLibSymbol : Symbol := .qualified "stream" "host"

def hostStreamConfigProbeSymbol : Symbol := .qualified "config-probe" "stream-host"

def hardwareInventoryProbeCapabilitySymbol : Symbol := .qualified "config-probe-capability" "hardware-inventory"

def key (name : String) : Expr := .symbol (.new name)

def stringList (values : List String) : Expr := .list (values.map .string)

def int (value : UInt32) : Expr := .number ⟨.new "i64", toString value.toNat⟩

def regexEscape (value : String) : String :=
  value.toList.foldl (fun escaped character =>
    (if character ∈ ['\\', '.', '+', '*', '?', '^', '$', '(', ')', '[', ']', '{', '}', '|'] then escaped.push '\\'
      else escaped).push character) ""

def candidateRegex (values : List String) : String :=
  if values.isEmpty then "(?!)"
  else "^(?:" ++ "|".intercalate (values.map regexEscape) ++ ")$"

def streamHostTable (audioCandidates midiCandidates : List String) : Expr :=
  .map [(key "audio_backend_candidates", stringList audioCandidates),
    (key "midi_backend_candidates", stringList midiCandidates),
    (key "audio_backend_regex", .string (candidateRegex audioCandidates)),
    (key "midi_backend_regex", .string (candidateRegex midiCandidates)),
    (key "sample_rate_hz", int defaultSampleRateHz),
    (key "max_block_frames", int defaultMaxBlockFrames)]

inductive ProbeMode where
  | modeled
  | real
deriving DecidableEq, Repr

structure ConfigProbeRequest where
  lib : Symbol
  mode : ProbeMode
  hardwareInventory : Bool
deriving DecidableEq, Repr

inductive ConfigProbeStatus where
  | skipped (reason : String)
  | denied (capability : String)
  | failed (message : String)
  | applied
deriving DecidableEq, Repr

structure ConfigProbeReport where
  probe : Symbol
  lib : Symbol
  mode : ProbeMode
  status : ConfigProbeStatus
  emittedKeys : List String
deriving DecidableEq, Repr

/-- A layer with one table, and the probe and mode it came from. -/
structure ConfigLayer where
  probe : Symbol
  mode : ProbeMode
  lib : Symbol
  table : Expr
deriving Repr

def report (probe : Symbol) (request : ConfigProbeRequest) (status : ConfigProbeStatus) (keys : List String) :
    ConfigProbeReport :=
  ⟨probe, request.lib, request.mode, status, keys⟩

structure HostStreamConfigProbe (ω : Type) where
  catalog : DeviceCatalog ω

namespace HostStreamConfigProbe

/-- `display` is how the kernel prints an error. -/
def realCandidates (display : Error → String) (probe : HostStreamConfigProbe ω) (world : ω) :
    Except String (List String × List String) × ω :=
  match probe.catalog.audioHardwareBackendNames world with
  | (.error error, world) => (.error s!"audio backend inventory failed: {display error}", world)
  | (.ok audio, world) =>
    match probe.catalog.midiHardwareBackendNames world with
    | (.error error, world) => (.error s!"MIDI backend inventory failed: {display error}", world)
    | (.ok midi, world) => (.ok (audio, midi), world)

def candidates (display : Error → String) (probe : HostStreamConfigProbe ω) (mode : ProbeMode) (world : ω) :
    Except String (List String × List String) × ω :=
  match mode with
  | .modeled => (.ok (["modeled"], ["modeled"]), world)
  | .real => probe.realCandidates display world

def run (display : Error → String) (probe : HostStreamConfigProbe ω) (request : ConfigProbeRequest) (world : ω) :
    (Option ConfigLayer × ConfigProbeReport) × ω :=
  let symbol := hostStreamConfigProbeSymbol
  if request.lib ≠ streamHostConfigLibSymbol then
    ((none, report symbol request (.skipped "stream-host probe only serves stream/host") []), world)
  else if request.mode = .real ∧ ¬ request.hardwareInventory then
    ((none, report symbol request (.denied hardwareInventoryProbeCapabilitySymbol.asQualifiedStr) []), world)
  else
    match probe.candidates display request.mode world with
    | (.error message, world) => ((none, report symbol request (.failed message) []), world)
    | (.ok (audio, midi), world) =>
      ((some ⟨symbol, request.mode, request.lib, streamHostTable audio midi⟩,
        report symbol request .applied StreamHost.emittedKeys), world)

end HostStreamConfigProbe

end StreamHost
