import StreamHost.Wristbridge.Import

/-! Local links of the watch routes, and the hardware bring-up evidence without
which no hardware route opens. -/

namespace StreamHost.Wristbridge

section Links
variable (access : Access) (build : TextBuild)

structure BlueZLink where
  adapter : String
  device : String
  events : List WornEvent

def BlueZLink.scriptedEvents (link : BlueZLink) : List WornEvent := link.events

def BlueZLink.serializeCommand (_link : BlueZLink) (command : Expr) : DeviceResult WatchCommandPacket :=
  encodeWatchCommand access .ble command

structure RelayLink where
  endpoint : String
  events : List WornEvent

def RelayLink.scriptedEvents (link : RelayLink) : List WornEvent := link.events

def RelayLink.commandPacket (_link : RelayLink) (command : Expr) : DeviceResult WatchCommandPacket :=
  encodeWatchCommand access .relay command

def RelayLink.serializeCommand (link : RelayLink) (command : Expr) : DeviceResult Expr := do
  let packet ← encodeWatchCommand access .relay command
  return build.map [
    ("kind", build.qsym "stream/wristbridge" "relay-command"),
    ("endpoint", build.text link.endpoint),
    ("packet", packet.toExpr build.toBuild)]

structure ZeppBridgeLink where
  companionId : String
  events : List WornEvent

def ZeppBridgeLink.scriptedEvents (link : ZeppBridgeLink) : List WornEvent := link.events

def ZeppBridgeLink.commandPacket (_link : ZeppBridgeLink) (command : Expr) : DeviceResult WatchCommandPacket :=
  encodeWatchCommand access .zeppBridge command

def ZeppBridgeLink.serializeCommand (link : ZeppBridgeLink) (command : Expr) : DeviceResult Expr := do
  let packet ← encodeWatchCommand access .zeppBridge command
  return build.map [
    ("kind", build.qsym "stream/wristbridge" "zepp-bridge-command"),
    ("companion", build.text link.companionId),
    ("packet", packet.toExpr build.toBuild)]

end Links

inductive WatchRoute where
  | ble (link : BlueZLink)
  | relay (link : RelayLink)
  | zeppBridge (link : ZeppBridgeLink)
  | fileImport (source : ImportSource)
  | stub

inductive BringupRoute where
  | ble
  | relay
  | zepp
  | fileImport
  | wifiLan
deriving DecidableEq, Repr

namespace BringupRoute

def key : BringupRoute → String
  | ble => "ble"
  | relay => "relay"
  | zepp => "zepp"
  | fileImport => "import"
  | wifiLan => "wifi-lan"

def proofExpectation : BringupRoute → String
  | ble => "BlueZ HR/Battery/DeviceInfo/CurrentTime proof"
  | relay => "phone relay notification lane proof"
  | zepp => "Zepp Mini Program bridge proof"
  | fileImport => "GPX/FIT/TCX/CSV import proof"
  | wifiLan => "Zepp OS API and device policy Wi-Fi LAN proof"

end BringupRoute

structure RouteProof where
  verified : Bool
  proof : Option String
deriving DecidableEq, Repr

namespace RouteProof

def unverified : RouteProof := ⟨false, none⟩

def verifiedBy (proof : String) : RouteProof := ⟨true, some proof⟩

def toExpr (build : TextBuild) (route : RouteProof) : Expr :=
  build.map [
    ("verified", .bool route.verified),
    ("proof", (route.proof.map build.text).getD .nil)]

end RouteProof

structure BringupLedger where
  ble : RouteProof
  relay : RouteProof
  zepp : RouteProof
  fileImport : RouteProof
  wifiLan : RouteProof
deriving DecidableEq, Repr

namespace BringupLedger

/-- `BringupLedger::default()`. -/
def unverified : BringupLedger := ⟨.unverified, .unverified, .unverified, .unverified, .unverified⟩

def entry (ledger : BringupLedger) : BringupRoute → RouteProof
  | .ble => ledger.ble
  | .relay => ledger.relay
  | .zepp => ledger.zepp
  | .fileImport => ledger.fileImport
  | .wifiLan => ledger.wifiLan

def verify (ledger : BringupLedger) (route : BringupRoute) (proof : String) : BringupLedger :=
  match route with
  | .ble => { ledger with ble := .verifiedBy proof }
  | .relay => { ledger with relay := .verifiedBy proof }
  | .zepp => { ledger with zepp := .verifiedBy proof }
  | .fileImport => { ledger with fileImport := .verifiedBy proof }
  | .wifiLan => { ledger with wifiLan := .verifiedBy proof }

def importFixture : BringupLedger :=
  unverified.verify .fileImport "synthetic GPX/FIT/TCX/CSV fixtures exercised by CI"

def toExpr (build : TextBuild) (ledger : BringupLedger) : Expr :=
  build.map [
    ("kind", build.qsym "stream/wristbridge" "bringup-ledger"),
    ("fixture", build.text "bringup/ledger"),
    ("ble", ledger.ble.toExpr build),
    ("relay", ledger.relay.toExpr build),
    ("zepp", ledger.zepp.toExpr build),
    ("import", ledger.fileImport.toExpr build),
    ("wifi-lan", ledger.wifiLan.toExpr build),
    ("notes", .list ([.ble, .relay, .zepp, .fileImport, .wifiLan].map fun route => build.text (BringupRoute.proofExpectation route)))]

end BringupLedger

def requireVerified (route : BringupRoute) (ledger : BringupLedger) : DeviceResult Unit :=
  .rejectIf (¬ (ledger.entry route).verified)
    (.host s!"watch route {route.key} requires verified bring-up proof: {route.proofExpectation}")

/-- `RouteEnableGuard::enable`: stubs and imports are always enabled. -/
def WatchRoute.enable (route : WatchRoute) (ledger : BringupLedger) : DeviceResult Unit :=
  match route with
  | stub | fileImport _ => .ok ()
  | ble _ => requireVerified .ble ledger
  | relay _ => requireVerified .relay ledger
  | zeppBridge _ => requireVerified .zepp ledger

def watchDeviceProfile : DeviceProfile where
  device := .qualified "device" "amazfit-t-rex-3-pro"
  streams := ["heart-rate", "motion", "location", "battery", "connection", "mic-audio"].map (.qualified "device/stream")
  inputs := ["button", "touch", "tap", "raise"].map (.qualified "device/input")
  outputs := ["notification", "haptic", "face-slot", "alarm", "privacy"].map (.qualified "watch/output")
  sampleKinds := [.qualified "stream/device-sample" wornEventSampleKind]

structure WatchProvider where
  route : WatchRoute
  profile : DeviceProfile
  bringup : BringupLedger

namespace WatchProvider

def new (route : WatchRoute) : WatchProvider := ⟨route, watchDeviceProfile, .unverified⟩

def withBringupLedger (provider : WatchProvider) (bringup : BringupLedger) : WatchProvider := { provider with bringup }

def openSession (build : TextBuild) (provider : WatchProvider) : DeviceResult WatchSession := do
  provider.route.enable provider.bringup
  match provider.route with
  | .stub => .error .unsupported
  | .ble link => .ok (.new build.toBuild .ble link.scriptedEvents provider.profile)
  | .relay link => .ok (.new build.toBuild .relay link.scriptedEvents provider.profile)
  | .zeppBridge link => .ok (.new build.toBuild .zeppBridge link.scriptedEvents provider.profile)
  | .fileImport source => do
    let events ← source.events build
    return .new build.toBuild .fileImport events provider.profile

end WatchProvider

end StreamHost.Wristbridge
