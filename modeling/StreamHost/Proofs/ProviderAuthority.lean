import StreamHost.ProviderHost
import StreamHost.Proofs.PlacementOpens

/-! Where the rows of the audio router come from when providers are loaded into it. A row
that nobody registered by hand was put there by a load under the native capability. -/

namespace StreamHost.Proofs.ProviderAuthority
open Std AudioRouter SiteOwnership PlacementOpens

variable {Site : Type} [AudioSite Site] {Source κ ω : Type}

abbrev LoadingEvent (Site Source κ ω : Type) [AudioSite Site] :=
  Machine.Event (LoadingHost Site Source κ ω) (LoadingCall Site Source κ ω) LoadingAnswer

section Ends
variable (context : HostContext κ)

/-- The key is registered, to this owner and site. -/
def Holds (key : AudioSiteKey) (registered : RegisteredAudioSite Site) (state : LoadingHost Site Source κ ω) : Prop :=
  row state.router key = some registered

def Permitted (cx : κ) : Prop := context.require nativeAudioProviderCapability cx = .ok ()

/-- The load was permitted, and the library it acquired declares the key and registers the site. -/
structure Loads (host : AudioProviderHost Site Source κ ω) (source : Source) (before : LoadingHost Site Source κ ω)
    (key : AudioSiteKey) (registered : RegisteredAudioSite Site) (manifest : LibManifest) : Prop where
  permitted : Permitted context before.cx
  acquired : (host.loaders source before.cx before.world.1).1 = .ok manifest
  owned : registered.owner = manifest.id
  exported : .site key.symbol ∈ manifest.exports
  spaced : key.symbol.ns = some "audio/site"
  entered : ∃ entry, host.proofEntries.entry manifest.id = .ok entry ∧ registered.site ∈ entry.sites
  keyed : AudioSite.key registered.site = key

/-- The event that put the row there: a call that names its owner, or a permitted load. -/
def Authorizes (key : AudioSiteKey) (registered : RegisteredAudioSite Site) (event : LoadingEvent Site Source κ ω) :
    Prop :=
  match event.input, event.output with
  | .register site, .done (.ok ()) =>
    registered = ⟨localAudioSiteOwnerSymbol, site⟩ ∧ AudioSite.key site = key
  | .registerOwned owner site, .done (.ok ()) => registered = ⟨owner, site⟩ ∧ AudioSite.key site = key
  | .reloadOwned owner site, .done (.ok ()) => registered = ⟨owner, site⟩ ∧ AudioSite.key site = key
  | .loadInto host source, _ => ∃ manifest, Loads context host source event.before key registered manifest
  | _, _ => False

/-- The owner is not removed, and no other site is reloaded under the key. -/
def Leaves (key : AudioSiteKey) (registered : RegisteredAudioSite Site) (event : LoadingEvent Site Source κ ω) : Prop :=
  match event.input, event.output with
  | .unregisterOwner owner, _ => owner ≠ registered.owner
  | .reloadOwned _ site, .done (.ok ()) => AudioSite.key site ≠ key
  | _, _ => True

/-- How a load ends. Without the capability nothing is asked of the loaders; with it they are
asked once, and the rows that are there stay, also when the load fails. -/
inductive LoadEnds (host : AudioProviderHost Site Source κ ω) (source : Source) (before : LoadingHost Site Source κ ω) :
    Result Unit → LoadingHost Site Source κ ω → Prop where
  | denied {error : Error} (unpermitted : ¬ Permitted context before.cx) :
      LoadEnds host source before (.error error) before
  | unavailable {error : Error} {cx : κ} {world : ω} (permitted : Permitted context before.cx)
      (refused : host.loaders source before.cx before.world.1 = (.error error, cx, world)) :
      LoadEnds host source before (.error error) ⟨before.router, cx, (world, before.world.2 ++ [source])⟩
  | loaded {manifest : LibManifest} {result : Result Unit} {router : AudioRouter Site} {cx : κ} {world : ω}
      (permitted : Permitted context before.cx)
      (acquired : host.loaders source before.cx before.world.1 = (.ok manifest, cx, world))
      (registers : registerProviderLib manifest host.proofEntries before.router = (result, router))
      (stays : ∀ key registered, Holds key registered before → row router key = some registered) :
      LoadEnds host source before result ⟨router, cx, (world, before.world.2 ++ [source])⟩

end Ends

variable {context : HostContext κ}

private theorem load_ends (host : AudioProviderHost Site Source κ ω) (source : Source) (before : LoadingHost Site Source κ ω) :
    let outcome := host.logged.loadInto context source before.router before.cx before.world
    LoadEnds context host source before outcome.1 ⟨outcome.2.1, outcome.2.2.1, outcome.2.2.2⟩ := by
  intro outcome
  have shape : outcome = host.logged.loadInto context source before.router before.cx before.world := rfl
  clear_value outcome
  unfold AudioProviderHost.loadInto at shape
  cases asked : context.require nativeAudioProviderCapability before.cx with
  | error error =>
    rw [asked] at shape
    rw [shape]
    refine .denied fun permitted => ?_
    cases asked.symm.trans permitted
  | ok =>
    rw [asked] at shape
    rcases acquired : host.loaders source before.cx before.world.1 with ⟨error | manifest, cx, world⟩
    · simp only [AudioProviderHost.logged, LoaderRegistry.logged, acquired, Prod.map, id] at shape
      rw [shape]
      exact .unavailable asked acquired
    · simp only [AudioProviderHost.logged, LoaderRegistry.logged, acquired, Prod.map, id] at shape
      rw [shape]
      refine .loaded asked acquired rfl ?_
      intro key registered found
      obtain ⟨kept, still, _, changed⟩ := load_holds manifest host.proofEntries before.router key registered found nofun
      by_cases same : kept = registered
      · rw [same] at still
        exact still
      · cases changed same

/-- A row after a load was loaded by it, or was there before. -/
theorem LoadEnds.row {host : AudioProviderHost Site Source κ ω} {source : Source}
    {before after : LoadingHost Site Source κ ω} {result : Result Unit}
    (ends : LoadEnds context host source before result after) {key : AudioSiteKey}
    {registered : RegisteredAudioSite Site} (found : Holds key registered after) :
    (∃ manifest, Loads context host source before key registered manifest) ∨ Holds key registered before := by
  cases ends with
  | denied | unavailable => exact .inr found
  | @loaded manifest _ router _ _ permitted acquired registers =>
    have loaded : (registerProviderLib manifest host.proofEntries before.router).2 = router := congrArg Prod.snd registers
    have found : SiteOwnership.row router key = some registered := found
    rw [← loaded] at found
    refine (load_row found).imp_left fun ⟨owned, exported, spaced, entry, entered, member, keyed⟩ => ?_
    exact ⟨_, permitted, congrArg Prod.fst acquired, owned, exported, spaced, ⟨entry, entered, member⟩, keyed⟩

/-- A row of the router is authorized by this call, or was there and is left alone. -/
theorem step_row {key : AudioSiteKey} {registered : RegisteredAudioSite Site} (state : LoadingHost Site Source κ ω)
    (call : LoadingCall Site Source κ ω)
    (found : Holds key registered ((LoadingHost.machine context).step state call).2) :
    Authorizes context key registered ((LoadingHost.machine context).event state call) ∨
      Holds key registered state ∧ Leaves key registered ((LoadingHost.machine context).event state call) := by
  cases call with
  | register site =>
    rcases outcome : state.router.registerOwned localAudioSiteOwnerSymbol site with ⟨error | ⟨⟩, router⟩
    · have panics : state.router.register site = none := by rw [AudioRouter.register, outcome]
      simp only [LoadingHost.machine, panics] at found
      exact .inr ⟨found, trivial⟩
    · have accepted : state.router.register site = some router := by rw [AudioRouter.register, outcome]
      have after : (state.router.registerOwned localAudioSiteOwnerSymbol site).2 = router := congrArg Prod.snd outcome
      simp only [LoadingHost.machine, accepted, ← after] at found
      simp only [Authorizes, Leaves, Machine.event, LoadingHost.machine, accepted]
      exact (registerOwned_row found).imp And.right (⟨·, trivial⟩)
  | registerOwned owner site =>
    rcases registerOwned_row found with ⟨accepted, same⟩ | before
    · left
      simp only [Authorizes, Machine.event, LoadingHost.machine, accepted, Prod.map_fst]
      exact same
    · exact .inr ⟨before, trivial⟩
  | reloadOwned owner site =>
    rcases reloadOwned_row found with ⟨accepted, same⟩ | ⟨before, ⟨error, refused⟩ | ⟨accepted, other⟩⟩
    · left
      simp only [Authorizes, Machine.event, LoadingHost.machine, accepted, Prod.map_fst]
      exact same
    · right
      simp only [Leaves, Machine.event, LoadingHost.machine, refused, Prod.map_fst]
      exact ⟨before, trivial⟩
    · right
      simp only [Leaves, Machine.event, LoadingHost.machine, accepted, Prod.map_fst]
      exact ⟨before, other⟩
  | unregisterOwner owner => exact .inr (withoutOwner_row found)
  | loadInto host source => exact ((load_ends host source state).row found).imp_right (⟨·, trivial⟩)
  | setContext cx => exact .inr ⟨found, trivial⟩

/-- In every run from an empty router each row was authorized by some event and has been left
alone since; a load without the capability changes nothing and asks no loader, and no load
disturbs the rows that are there. -/
theorem provider_rows_authorized (context : HostContext κ) (cx : κ) (world : ω)
    (calls : List (LoadingCall Site Source κ ω)) :
    (∀ key registered, Holds key registered ((LoadingHost.machine context).final ⟨.new, cx, (world, [])⟩ calls) →
        Machine.Since (Authorizes context key registered) (Leaves key registered)
          ((LoadingHost.machine context).trace ⟨.new, cx, (world, [])⟩ calls)) ∧
    ∀ event ∈ (LoadingHost.machine context).trace ⟨.new, cx, (world, [])⟩ calls, match event.input with
      | .loadInto host source => ∃ result, event.output = .done result ∧
          LoadEnds context host source event.before result event.after
      | _ => event.after.world = event.before.world := by
  constructor
  · intro key registered found
    refine Machine.since_of _ step_row ?_ calls found
    intro early
    cases early.symm.trans ExtTreeMap.getElem?_empty
  · intro event member
    obtain ⟨earlier, _, _, same⟩ := (LoadingHost.machine context).mem_trace.mp member
    rw [same]
    cases event.input with
    | register site =>
      simp only [Machine.event, LoadingHost.machine]
      split <;> rfl
    | registerOwned | reloadOwned | unregisterOwner | setContext => rfl
    | loadInto host source => exact ⟨_, rfl, load_ends host source _⟩

/-- A host whose loaders always find the fixture library. -/
def fixtureHost : AudioProviderHost ModeledAudioSite Unit (List CapabilityName × List Effect) Unit :=
  (AudioProviderHost.new fun _ cx world => (.ok ProviderLoad.fixtureManifest, cx, world)).withProofEntry
    ProviderLoad.fixtureProvider ⟨[ProviderLoad.fixtureSite "first"], .ok ()⟩

/-- Refused first, and loaded once the capability is granted. -/
def grantedCalls : List (LoadingCall ModeledAudioSite Unit (List CapabilityName × List Effect) Unit) :=
  [.loadInto fixtureHost (), .setContext ([nativeAudioProviderCapability], []), .loadInto fixtureHost ()]

theorem fixture_authorized :
    Machine.Since
      (Authorizes plainContext ⟨.qualified "audio/site" "first"⟩
        ⟨ProviderLoad.fixtureProvider, ProviderLoad.fixtureSite "first"⟩)
      (Leaves ⟨.qualified "audio/site" "first"⟩ ⟨ProviderLoad.fixtureProvider, ProviderLoad.fixtureSite "first"⟩)
      ((LoadingHost.machine plainContext).trace ⟨.new, ([], []), ((), [])⟩ grantedCalls) :=
  (provider_rows_authorized plainContext ([], []) () grantedCalls).1 _ _ rfl

end StreamHost.Proofs.ProviderAuthority
