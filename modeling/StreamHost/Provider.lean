import StreamHost.Lib.Machine
import StreamHost.Router

/-! The registration seam of loadable audio providers: the site exports of a
manifest, the registrar an entry point calls, and the load that drives both. -/

namespace StreamHost
open Std

def audioProviderEntryV1 : String := "sim_audio_provider_v1"

/-- The export records of a library. Only site exports are told apart. -/
inductive Export where
  | site (symbol : Symbol)
  | other
deriving DecidableEq, Repr

structure LibManifest where
  id : Symbol
  exports : List Export

/-- All an entry point can do through the registrar: register some sites, then
return. The host ABI version it can also ask for is a constant. -/
structure AudioProviderEntry (Site : Type) where
  sites : List Site
  result : Result Unit

abbrev AudioProviderProofEntries (Site : Type) := ExtTreeMap Symbol (AudioProviderEntry Site)

def AudioProviderProofEntries.entry {Site : Type} (entries : AudioProviderProofEntries Site) (provider : Symbol) :
    Result (AudioProviderEntry Site) :=
  match entries[provider]? with
  | some entry => .ok entry
  | none => .error (.hostError s!"audio provider {provider} has no proof entry for {audioProviderEntryV1}")

namespace AudioProviderSiteExports

def collect (id : Symbol) (symbols : ExtTreeSet Symbol) : Export → Result (ExtTreeSet Symbol)
  | .other => .ok symbols
  | .site symbol =>
    if symbol.ns ≠ some "audio/site" then
      .error (.hostError s!"audio provider {id} declared invalid site export {symbol}; expected audio/site")
    else .ok (symbols.insert symbol)

def fromManifest (manifest : LibManifest) : Result (ExtTreeSet Symbol) := do
  let symbols ← manifest.exports.foldlM (collect manifest.id) ∅
  if symbols.isEmpty then
    .error (.hostError s!"audio provider {manifest.id} declared no audio/site exports")
  else .ok symbols

end AudioProviderSiteExports

structure RouterAudioProviderRegistrar (Site : Type) [AudioSite Site] where
  router : AudioRouter Site
  owner : Symbol
  allowedSites : Option (ExtTreeSet Symbol)
  registrationError : Option Error

namespace RouterAudioProviderRegistrar
variable {Site : Type} [AudioSite Site]

def forProvider (router : AudioRouter Site) (owner : Symbol) (allowedSites : ExtTreeSet Symbol) :
    RouterAudioProviderRegistrar Site := ⟨router, owner, some allowedSites, none⟩

def allows (registrar : RouterAudioProviderRegistrar Site) (symbol : Symbol) : Bool :=
  registrar.allowedSites.all (·.contains symbol)

def recordError (error : Error) (registrar : RouterAudioProviderRegistrar Site) : RouterAudioProviderRegistrar Site :=
  if registrar.registrationError.isNone then { registrar with registrationError := some error } else registrar

def registerSite (registrar : RouterAudioProviderRegistrar Site) (site : Site) : RouterAudioProviderRegistrar Site :=
  let siteSymbol := (AudioSite.key site).symbol
  if registrar.registrationError.isSome then registrar
  else if registrar.allows siteSymbol then
    match registrar.router.registerOwned registrar.owner site with
    | (.ok (), router) => { registrar with router }
    | (.error error, router) => recordError error { registrar with router }
  else recordError (.hostError s!"audio provider {registrar.owner} registered undeclared site {siteSymbol}") registrar

def registerSites (registrar : RouterAudioProviderRegistrar Site) (sites : List Site) :
    RouterAudioProviderRegistrar Site := sites.foldl registerSite registrar

def finish (registrar : RouterAudioProviderRegistrar Site) : Result Unit :=
  match registrar.registrationError with
  | some error => .error error
  | none => .ok ()

end RouterAudioProviderRegistrar

/-- The body of a provider load. Rows registered before an error stay. -/
def registerProviderLib {Site : Type} [AudioSite Site] (manifest : LibManifest)
    (proofEntries : AudioProviderProofEntries Site) (router : AudioRouter Site) : Result Unit × AudioRouter Site :=
  match AudioProviderSiteExports.fromManifest manifest with
  | .error error => (.error error, router)
  | .ok symbols =>
    match proofEntries.entry manifest.id with
    | .error error => (.error error, router)
    | .ok entry =>
      let registrar := (RouterAudioProviderRegistrar.forProvider router manifest.id symbols).registerSites entry.sites
      match entry.result with
      | .error error => (.error error, registrar.router)
      | .ok () => (registrar.finish, registrar.router)

inductive RouterCall (Site : Type) where
  | registerOwned (owner : Symbol) (site : Site)
  | reloadOwned (owner : Symbol) (site : Site)
  | unregisterOwner (owner : Symbol)
  | registerProviderLib (manifest : LibManifest) (proofEntries : AudioProviderProofEntries Site)

inductive RouterAnswer where
  | done (result : Result Unit)
  | removed (rows : Nat)
deriving DecidableEq

def AudioRouter.machine (Site : Type) [AudioSite Site] : Machine (AudioRouter Site) (RouterCall Site) RouterAnswer where
  step router call := match call with
    | .registerOwned owner site => (router.registerOwned owner site).map .done id
    | .reloadOwned owner site => (router.reloadOwned owner site).map .done id
    | .unregisterOwner owner => (router.unregisterOwner owner).map .removed id
    | .registerProviderLib manifest proofEntries => (StreamHost.registerProviderLib manifest proofEntries router).map .done id

end StreamHost
