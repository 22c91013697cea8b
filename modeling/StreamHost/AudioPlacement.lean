import StreamHost.Provider
import StreamHost.Registry

/-! Opening streams through the audio router: placement requests, the site-level open
behind the `AudioSite` trait, and the checked open in front of it. -/

namespace StreamHost

variable {κ ν δ ω : Type}

structure AudioPlacementRequest where
  siteKey : AudioSiteKey
  streamRequest : HostStreamConfigRequest
deriving DecidableEq, Repr

/-- The opening half of the `AudioSite` trait, over the outside world. -/
abbrev SiteOpener (Site ω ν δ : Type) := Site → HostStreamConfigRequest → ω → Result (HostOpenStream ν δ) × ω

/-- The same opener, with a record of the sites it was asked to open. -/
def SiteOpener.logged {Site : Type} (opener : SiteOpener Site ω ν δ) :
    SiteOpener Site (ω × List (Site × HostStreamConfigRequest)) ν δ :=
  fun site request world => (opener site request world.1).map id (·, world.2 ++ [(site, request)])

/-- A modeled site with the backend behind it. -/
structure BackedAudioSite (ω ν δ : Type) extends ModeledAudioSite where
  backend : HostBackend ω ν δ

instance : AudioSite (BackedAudioSite ω ν δ) where
  key site := site.deviceCard.key
  card site := site.deviceCard

def BackedAudioSite.openStream : SiteOpener (BackedAudioSite ω ν δ) ω ν δ := fun site => site.backend.openStream

/-- The plan of a placement names what the request names, whatever the site stands for. -/
def HostStreamConfigRequest.placementPlan (request : HostStreamConfigRequest) : HostOpenPlan where
  backend := request.backend
  device := request.device
  effectKinds := request.direction.effectKinds
  requires := [streamHostCapability]

namespace AudioRouter
variable {Site : Type} [AudioSite Site] (debug : AudioSiteKey → String)

/-- A key that is not registered is a miss as long as the modeled one is. `debug` formats a key for an error. -/
def resolveOrModeled (key modeled : AudioSiteKey) (router : AudioRouter Site) : Result AudioSiteKey :=
  if router.sites.contains key then .ok key
  else if router.sites.contains modeled then .ok modeled
  else .error (.eval s!"no audio site registered for {debug key} and no modeled fallback {debug modeled}")

def openPlacement (opener : SiteOpener Site ω ν δ) (router : AudioRouter Site) (request : AudioPlacementRequest)
    (world : ω) : Result (HostOpenStream ν δ) × ω :=
  match router.sites[request.siteKey]? with
  | none => (.error (.eval s!"no audio site registered for {debug request.siteKey}"), world)
  | some registered => opener registered.site request.streamRequest world

def openPlacementChecked (context : HostContext κ) (opener : SiteOpener Site ω ν δ) (router : AudioRouter Site) (cx : κ)
    (request : AudioPlacementRequest) (world : ω) : Result (HostOpenStream ν δ) × κ × ω :=
  if router.sites.contains request.siteKey then
    match request.streamRequest.placementPlan.enforce context cx with
    | (.error error, cx) => (.error error, cx, world)
    | (.ok (), cx) => (router.openPlacement debug opener request world).map id (cx, ·)
  else (.error (.eval s!"no audio site registered for {debug request.siteKey}"), cx, world)

end AudioRouter

/-- The router, the context and the world that placements are opened in. -/
structure PlacementHost (Site κ ω : Type) [AudioSite Site] where
  router : AudioRouter Site
  cx : κ
  world : ω × List (Site × HostStreamConfigRequest)

inductive PlacementCall (Site : Type) where
  | route (call : RouterCall Site)
  | resolveOrModeled (key modeled : AudioSiteKey)
  | openPlacementChecked (request : AudioPlacementRequest)

inductive PlacementAnswer (ν δ : Type) where
  | routed (answer : RouterAnswer)
  | resolved (result : Result AudioSiteKey)
  | opened (result : Result (HostOpenStream ν δ))

def PlacementHost.machine {Site : Type} [AudioSite Site] (debug : AudioSiteKey → String) (context : HostContext κ)
    (opener : SiteOpener Site ω ν δ) :
    Machine (PlacementHost Site κ ω) (PlacementCall Site) (PlacementAnswer ν δ) where
  step host call := match call with
    | .route call => ((AudioRouter.machine Site).step host.router call).map .routed fun router => { host with router }
    | .resolveOrModeled key modeled => (.resolved (host.router.resolveOrModeled debug key modeled), host)
    | .openPlacementChecked request =>
      (host.router.openPlacementChecked debug context opener.logged host.cx request host.world).map .opened
        fun (cx, world) => { host with cx, world }

end StreamHost
