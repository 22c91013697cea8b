import StreamHost.AudioPlacement

/-! The host that loads audio providers through the kernel's loaders, under the native
capability, and the audio router it loads them into. -/

namespace StreamHost

variable {Site : Type} [AudioSite Site] {Source κ ω : Type}

def nativeAudioProviderCapability : CapabilityName := .new "audio.provider.native"

def localAudioSiteOwnerSymbol : Symbol := .qualified "audio/provider" "local-modeled"

/-- No router when the key is taken: the source panics. -/
def AudioRouter.register (site : Site) (router : AudioRouter Site) : Option (AudioRouter Site) :=
  match router.registerOwned localAudioSiteOwnerSymbol site with
  | (.ok (), router) => some router
  | (.error _, _) => none

/-- The kernel's loader registry. A load may change the context and the world; of the
library it acquires the host reads the manifest. -/
abbrev LoaderRegistry (Source κ ω : Type) := Source → κ → ω → Result LibManifest × κ × ω

/-- The same loaders, with a record of the sources they were asked for. -/
def LoaderRegistry.logged (loaders : LoaderRegistry Source κ ω) : LoaderRegistry Source κ (ω × List Source) :=
  fun source cx world => (loaders source cx world.1).map id (Prod.map id (·, world.2 ++ [source]))

structure AudioProviderHost (Site Source κ ω : Type) where
  loaders : LoaderRegistry Source κ ω
  proofEntries : AudioProviderProofEntries Site

namespace AudioProviderHost

def new (loaders : LoaderRegistry Source κ ω) : AudioProviderHost Site Source κ ω := ⟨loaders, ∅⟩

def withProofEntry (provider : Symbol) (entry : AudioProviderEntry Site) (host : AudioProviderHost Site Source κ ω) :
    AudioProviderHost Site Source κ ω :=
  { host with proofEntries := host.proofEntries.insert provider entry }

def logged (host : AudioProviderHost Site Source κ ω) : AudioProviderHost Site Source κ (ω × List Source) where
  loaders := host.loaders.logged
  proofEntries := host.proofEntries

def loadInto (context : HostContext κ) (host : AudioProviderHost Site Source κ ω) (source : Source)
    (router : AudioRouter Site) (cx : κ) (world : ω) : Result Unit × AudioRouter Site × κ × ω :=
  match context.require nativeAudioProviderCapability cx with
  | .error error => (.error error, router, cx, world)
  | .ok () =>
    match host.loaders source cx world with
    | (.error error, cx, world) => (.error error, router, cx, world)
    | (.ok manifest, cx, world) => (registerProviderLib manifest host.proofEntries router).map id (·, cx, world)

end AudioProviderHost

/-- The router, the context and the world that providers are loaded in, with the sources asked for. -/
structure LoadingHost (Site Source κ ω : Type) [AudioSite Site] where
  router : AudioRouter Site
  cx : κ
  world : ω × List Source

/-- `setContext` stands for what the rest of the program does to the context between the calls. -/
inductive LoadingCall (Site Source κ ω : Type) where
  | register (site : Site)
  | registerOwned (owner : Symbol) (site : Site)
  | reloadOwned (owner : Symbol) (site : Site)
  | unregisterOwner (owner : Symbol)
  | loadInto (host : AudioProviderHost Site Source κ ω) (source : Source)
  | setContext (cx : κ)

inductive LoadingAnswer where
  | done (result : Result Unit)
  | removed (rows : Nat)
  | panicked
  | unanswered
deriving DecidableEq

/-- The router is reached through its own calls and through loads. -/
def LoadingHost.machine (context : HostContext κ) :
    Machine (LoadingHost Site Source κ ω) (LoadingCall Site Source κ ω) LoadingAnswer where
  step state call := match call with
    | .register site =>
      match state.router.register site with
      | some router => (.done (.ok ()), { state with router })
      | none => (.panicked, state)
    | .registerOwned owner site => (state.router.registerOwned owner site).map .done ({ state with router := · })
    | .reloadOwned owner site => (state.router.reloadOwned owner site).map .done ({ state with router := · })
    | .unregisterOwner owner => (state.router.unregisterOwner owner).map .removed ({ state with router := · })
    | .loadInto host source =>
      (host.logged.loadInto context source state.router state.cx state.world).map .done fun (router, cx, world) =>
        ⟨router, cx, world⟩
    | .setContext cx => (.unanswered, { state with cx })

end StreamHost
