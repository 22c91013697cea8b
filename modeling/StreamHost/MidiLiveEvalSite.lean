import StreamHost.Catalog

/-! Live MIDI evaluation sites: a catalog site wrapped in a live MIDI session,
the site's own one or a modeled one. -/

namespace StreamHost

variable {κ ω σ : Type}

inductive LiveMidiDirection where
  | source
  | sink
  | duplex
deriving DecidableEq, Repr

def liveDirection : DeviceDirection → LiveMidiDirection
  | .input => .source
  | .output => .sink
  | .duplex => .duplex

/-- Live MIDI sessions as the sites use them; errors are known by their texts. -/
structure LiveMidi (ω σ : Type) where
  modeled : LiveMidiDirection → ω → Except String σ × ω
  direction : σ → LiveMidiDirection
  close : σ → ω → Except String Unit × ω

/-- The trait of open sites, over the outside world. -/
structure EvalSite (ω σ : Type) where
  deviceRecord : DeviceRecord
  liveMidiSession : ω → Option (Result σ) × ω
  close : ω → Result Unit × ω

/-- The catalog's own sites open no session and close without fail. -/
def StreamEvalSite.evalSite (site : StreamEvalSite) : EvalSite ω σ where
  deviceRecord := site.deviceRecord
  liveMidiSession world := (none, world)
  close world := (.ok (), world)

def liveError (error : String) : Error := .eval s!"midi live: {error}"

/-- `site.close()?` before `error` is returned. -/
def EvalSite.closeThen {α : Type} (site : EvalSite ω σ) (error : Error) (world : ω) : Result α × ω :=
  match site.close world with
  | (.error failed, world) => (.error failed, world)
  | (.ok (), world) => (.error error, world)

structure MidiLiveEvalSite (ω σ : Type) where
  record : DeviceRecord
  session : σ
  site : EvalSite ω σ

namespace MidiLiveEvalSite

/-- The end of `fromEvalSite`, once there is a session. -/
def checkDirection (live : LiveMidi ω σ) (id : Symbol) (site : EvalSite ω σ) (session : σ) (world : ω) :
    Result (MidiLiveEvalSite ω σ) × ω :=
  if live.direction session ≠ liveDirection site.deviceRecord.direction then
    site.closeThen (.eval s!"open_live: device '{id}' live session direction does not match catalog record") world
  else (.ok ⟨site.deviceRecord, session, site⟩, world)

/-- `fromEvalSite` for a MIDI site without a session of its own. -/
def fromModeled (live : LiveMidi ω σ) (id : Symbol) (site : EvalSite ω σ) (world : ω) :
    Result (MidiLiveEvalSite ω σ) × ω :=
  match live.modeled (liveDirection site.deviceRecord.direction) world with
  | (.ok session, world) => checkDirection live id site session world
  | (.error error, world) => (.error (liveError error), world)

def fromEvalSite (live : LiveMidi ω σ) (id : Symbol) (site : EvalSite ω σ) (world : ω) :
    Result (MidiLiveEvalSite ω σ) × ω :=
  if site.deviceRecord.kind ≠ .midi then site.closeThen (.eval s!"open_live: device '{id}' is not MIDI") world else
  match site.liveMidiSession world with
  | (some (.ok session), world) => checkDirection live id site session world
  | (some (.error error), world) => site.closeThen error world
  | (none, world) => fromModeled live id site world

/-- A session that fails to close keeps the site from being closed. -/
def close (live : LiveMidi ω σ) (opened : MidiLiveEvalSite ω σ) (world : ω) : Result Unit × ω :=
  match live.close opened.session world with
  | (.error error, world) => (.error (liveError error), world)
  | (.ok (), world) => opened.site.close world

end MidiLiveEvalSite

namespace DeviceCatalog

def openLive (live : LiveMidi ω σ) (catalog : DeviceCatalog ω) (id : Symbol) (world : ω) :
    Result (MidiLiveEvalSite ω σ) × ω :=
  match catalog.openSite id world with
  | (.error error, world) => (.error error, world)
  | (.ok site, world) => MidiLiveEvalSite.fromEvalSite live id site.evalSite world

def openLiveChecked (context : HostContext κ) (live : LiveMidi ω σ) (catalog : DeviceCatalog ω) (cx : κ) (id : Symbol)
    (world : ω) : Result (MidiLiveEvalSite ω σ) × κ × ω :=
  match catalog.openChecked context cx id world with
  | (.error error, cx, world) => (.error error, cx, world)
  | (.ok site, cx, world) => (MidiLiveEvalSite.fromEvalSite live id site.evalSite world).map (fun made => made) (cx, ·)

end DeviceCatalog

end StreamHost
