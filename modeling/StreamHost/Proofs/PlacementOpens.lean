import StreamHost.AudioPlacement
import StreamHost.Lib.Since
import StreamHost.Proofs.CheckedOpens
import StreamHost.Proofs.SiteOwnership

/-! Placements over any run of registrations, reloads, removals, provider loads and opens.
A checked open reaches the one site that its row's owner has registered under the key and
has not withdrawn since, after its authority was checked and its effects were recorded. -/

namespace StreamHost.Proofs.PlacementOpens
open Std AudioRouter SiteOwnership HostOpenPlan

variable {Site κ ν δ ω : Type} [AudioSite Site]

abbrev PlacementEvent (Site κ ν δ ω : Type) [AudioSite Site] :=
  Machine.Event (PlacementHost Site κ ω) (PlacementCall Site) (PlacementAnswer ν δ)

def Placed (key : AudioSiteKey) (registered : RegisteredAudioSite Site) (host : PlacementHost Site κ ω) : Prop :=
  row host.router key = some registered

/-- The owner puts its site under the key, alone or among the sites of its library. -/
def Registers (key : AudioSiteKey) (registered : RegisteredAudioSite Site) (event : PlacementEvent Site κ ν δ ω) : Prop :=
  match event.input, event.output with
  | .route (.registerOwned owner site), .routed (.done (.ok ()))
  | .route (.reloadOwned owner site), .routed (.done (.ok ())) => registered = ⟨owner, site⟩ ∧ AudioSite.key site = key
  | .route (.registerProviderLib manifest proofEntries), _ =>
    registered.owner = manifest.id ∧ .site key.symbol ∈ manifest.exports ∧ key.symbol.ns = some "audio/site" ∧
      ∃ entry, proofEntries.entry manifest.id = .ok entry ∧ registered.site ∈ entry.sites ∧
        AudioSite.key registered.site = key
  | _, _ => False

/-- The owner is not removed, and no other site is reloaded under the key. -/
def Leaves (key : AudioSiteKey) (registered : RegisteredAudioSite Site) (event : PlacementEvent Site κ ν δ ω) : Prop :=
  match event.input, event.output with
  | .route (.unregisterOwner owner), _ => owner ≠ registered.owner
  | .route (.reloadOwned _ site), .routed (.done (.ok ())) => AudioSite.key site ≠ key
  | _, _ => True

/-- Registered by its owner, and not withdrawn since. -/
def Registered (key : AudioSiteKey) (registered : RegisteredAudioSite Site)
    (past : List (PlacementEvent Site κ ν δ ω)) : Prop :=
  Machine.Since (Registers key registered) (Leaves key registered) past

section Ends
variable (debug : AudioSiteKey → String) (context : HostContext κ) (held : κ → CapabilityName → Prop) (ledger : κ → List Effect)
  (opener : SiteOpener Site ω ν δ) (past : List (PlacementEvent Site κ ν δ ω)) (before : PlacementHost Site κ ω)

/-- How a checked open ends. Only the last case asks a site, and that site only. -/
inductive OpenEnds (request : AudioPlacementRequest) : Result (HostOpenStream ν δ) → PlacementHost Site κ ω → Prop where
  | unplaced (free : row before.router request.siteKey = none) :
      OpenEnds request (.error (.eval s!"no audio site registered for {debug request.siteKey}")) before
  | denied {error : Error} (missing : ¬ held before.cx streamHostCapability)
      (refused : request.streamRequest.placementPlan.enforce context before.cx = (.error error, before.cx)) :
      OpenEnds request (.error error) before
  | unresolved {error : Error} {cx : κ} (authority : held before.cx streamHostCapability)
      (stopped : request.streamRequest.placementPlan.enforce context before.cx = (.error error, cx))
      (failed : request.streamRequest.placementPlan.Unresolved context ledger request.streamRequest.direction.effectKinds
        before.cx error cx) :
      OpenEnds request (.error error) { before with cx }
  | reached {registered : RegisteredAudioSite Site} {result : Result (HostOpenStream ν δ)} {cx : κ} {world : ω}
      (authority : held before.cx streamHostCapability)
      (recorded : request.streamRequest.placementPlan.Recorded request.streamRequest.direction.effectKinds
        (ledger before.cx) (ledger cx))
      (placed : Placed request.siteKey registered before)
      (standing : Registered request.siteKey registered past)
      (opens : opener registered.site request.streamRequest before.world.1 = (result, world)) :
      OpenEnds request result
        { before with cx, world := (world, before.world.2 ++ [(registered.site, request.streamRequest)]) }

/-- How a key is resolved: to itself, or to the modeled key in its absence. -/
inductive ResolveEnds (key modeled : AudioSiteKey) : Result AudioSiteKey → Prop where
  | own {registered : RegisteredAudioSite Site} (placed : Placed key registered before)
      (standing : Registered key registered past) : ResolveEnds key modeled (.ok key)
  | fallback {registered : RegisteredAudioSite Site} (free : row before.router key = none)
      (placed : Placed modeled registered before) (standing : Registered modeled registered past) :
      ResolveEnds key modeled (.ok modeled)
  | missing (free : row before.router key = none) (modeledFree : row before.router modeled = none) :
      ResolveEnds key modeled
        (.error (.eval s!"no audio site registered for {debug key} and no modeled fallback {debug modeled}"))

end Ends

section Rows
variable {router : AudioRouter Site} {key : AudioSiteKey} {registered : RegisteredAudioSite Site}

private theorem registerSites_site {registrar : RouterAudioProviderRegistrar Site} (sites : List Site)
    (free : row registrar.router key = none) (found : row (registrar.registerSites sites).router key = some registered) :
    registered.site ∈ sites := by
  induction sites generalizing registrar with
  | nil => cases free.symm.trans found
  | cons site rest ih =>
    have unfolded : registrar.registerSites (site :: rest) = (registrar.registerSite site).registerSites rest := rfl
    rw [unfolded] at found
    have step := ProviderLoad.registers registrar site
    generalize registrar.registerSite site = next at step found
    cases step with
    | ignored | refused =>
      apply List.mem_cons_of_mem
      refine ih ?_ found
      exact free
    | added _ fit =>
      by_cases here : AudioSite.key site = key
      · have first := ProviderLoad.withSite_row registrar site
        rw [here] at first
        have kept := ProviderLoad.registerSites_keeps first rest
        rw [Option.some.inj (found.symm.trans kept)]
        exact List.mem_cons_self
      · apply List.mem_cons_of_mem
        refine ih ?_ found
        rw [row, ProviderLoad.withSite_rows, if_neg here]
        exact free

private theorem load_site {manifest : LibManifest} {proofEntries : AudioProviderProofEntries Site} (free : row router key = none)
    (found : row (registerProviderLib manifest proofEntries router).2 key = some registered) :
    ∃ entry, proofEntries.entry manifest.id = .ok entry ∧ registered.site ∈ entry.sites := by
  cases accepted : AudioProviderSiteExports.fromManifest manifest with
  | error error =>
    simp only [registerProviderLib, accepted] at found
    cases free.symm.trans found
  | ok declared =>
    cases entered : proofEntries.entry manifest.id with
    | error error =>
      simp only [registerProviderLib, accepted, entered] at found
      cases free.symm.trans found
    | ok entry =>
      rw [load_accepted accepted entered] at found
      exact ⟨entry, rfl, registerSites_site entry.sites free found⟩

private theorem reloadOwned_cases (owner : Symbol) (site : Site) (router : AudioRouter Site) :
    (∃ error, router.reloadOwned owner site = (.error error, router)) ∨
      router.reloadOwned owner site = (.ok (), router.put owner site) := by
  unfold reloadOwned
  split
  · split
    · exact .inl ⟨_, rfl⟩
    · exact .inr rfl
  · exact .inr rfl

/-- A row after a registration is the registered one, or was there before. -/
theorem registerOwned_row {owner : Symbol} {site : Site}
    (found : row (router.registerOwned owner site).2 key = some registered) :
    ((router.registerOwned owner site).1 = .ok () ∧ registered = ⟨owner, site⟩ ∧ AudioSite.key site = key) ∨
      row router key = some registered := by
  cases taken : router.sites[AudioSite.key site]? with
  | some other =>
    rw [ProviderLoad.registerOwned_taken owner (by rw [taken]; exact nofun)] at found
    exact .inr found
  | none =>
    rw [ProviderLoad.registerOwned_free owner taken] at found ⊢
    rw [put_rows] at found
    by_cases here : AudioSite.key site = key
    · rw [if_pos here] at found
      exact .inl ⟨rfl, (Option.some.inj found).symm, here⟩
    · rw [if_neg here] at found
      exact .inr found

theorem reloadOwned_row {owner : Symbol} {site : Site}
    (found : row (router.reloadOwned owner site).2 key = some registered) :
    ((router.reloadOwned owner site).1 = .ok () ∧ registered = ⟨owner, site⟩ ∧ AudioSite.key site = key) ∨
      row router key = some registered ∧ ((∃ error, (router.reloadOwned owner site).1 = .error error) ∨
        (router.reloadOwned owner site).1 = .ok () ∧ AudioSite.key site ≠ key) := by
  obtain ⟨error, refused⟩ | accepted := reloadOwned_cases owner site router
  · rw [refused] at found ⊢
    exact .inr ⟨found, .inl ⟨error, rfl⟩⟩
  · rw [accepted, put_rows] at found
    rw [accepted]
    by_cases here : AudioSite.key site = key
    · rw [if_pos here] at found
      exact .inl ⟨rfl, (Option.some.inj found).symm, here⟩
    · rw [if_neg here] at found
      exact .inr ⟨found, .inr ⟨rfl, here⟩⟩

theorem withoutOwner_row {owner : Symbol} (found : row (router.withoutOwner owner) key = some registered) :
    row router key = some registered ∧ owner ≠ registered.owner := by
  rw [withoutOwner_rows, Option.filter_eq_some_iff] at found
  exact ⟨found.1, (of_decide_eq_true found.2).symm⟩

/-- A row after a load is one that the library declares and its entry registers, or was there before. -/
theorem load_row {manifest : LibManifest} {proofEntries : AudioProviderProofEntries Site}
    (found : row (registerProviderLib manifest proofEntries router).2 key = some registered) :
    (registered.owner = manifest.id ∧ .site key.symbol ∈ manifest.exports ∧ key.symbol.ns = some "audio/site" ∧
      ∃ entry, proofEntries.entry manifest.id = .ok entry ∧ registered.site ∈ entry.sites ∧
        AudioSite.key registered.site = key) ∨ row router key = some registered := by
  cases before : row router key with
  | none =>
    obtain ⟨owned, exported, spaced⟩ := load_adds before found
    obtain ⟨entry, entered, member⟩ := load_site before found
    have held := (registerProviderLib manifest proofEntries router).2.keyed key registered found
    exact .inl ⟨owned, exported, spaced, entry, entered, member, held⟩
  | some earlier =>
    obtain ⟨kept, still, _, changed⟩ := load_holds manifest proofEntries router key earlier before nofun
    obtain rfl := Option.some.inj (still.symm.trans found)
    by_cases same : kept = earlier
    · rw [same]
      exact .inr rfl
    · cases changed same

end Rows

section Steps
variable {debug : AudioSiteKey → String} {context : HostContext κ} {opener : SiteOpener Site ω ν δ}

/-- A row of the router is new by this call, or was there and is left alone. -/
theorem step_row {key : AudioSiteKey} {registered : RegisteredAudioSite Site} (host : PlacementHost Site κ ω)
    (call : PlacementCall Site)
    (found : Placed key registered ((PlacementHost.machine debug context opener).step host call).2) :
    Registers key registered ((PlacementHost.machine debug context opener).event host call) ∨
      Placed key registered host ∧ Leaves key registered ((PlacementHost.machine debug context opener).event host call) := by
  cases call with
  | resolveOrModeled | openPlacementChecked => exact .inr ⟨found, trivial⟩
  | route call =>
    cases call with
    | registerOwned owner site =>
      rcases registerOwned_row found with ⟨accepted, same⟩ | before
      · left
        simp only [Registers, Machine.event, PlacementHost.machine, AudioRouter.machine, accepted, Prod.map_fst]
        exact same
      · exact .inr ⟨before, trivial⟩
    | reloadOwned owner site =>
      rcases reloadOwned_row found with ⟨accepted, same⟩ | ⟨before, ⟨error, refused⟩ | ⟨accepted, other⟩⟩
      · left
        simp only [Registers, Machine.event, PlacementHost.machine, AudioRouter.machine, accepted, Prod.map_fst]
        exact same
      · right
        simp only [Leaves, Machine.event, PlacementHost.machine, AudioRouter.machine, refused, Prod.map_fst]
        exact ⟨before, trivial⟩
      · right
        simp only [Leaves, Machine.event, PlacementHost.machine, AudioRouter.machine, accepted, Prod.map_fst]
        exact ⟨before, other⟩
    | unregisterOwner owner => exact .inr (withoutOwner_row found)
    | registerProviderLib manifest proofEntries => exact (load_row found).imp_right (⟨·, trivial⟩)

/-- In a run from an empty router every row is a standing registration. -/
theorem row_stands {start : PlacementHost Site κ ω} (empty : start.router = .new) (calls : List (PlacementCall Site))
    {key : AudioSiteKey} {registered : RegisteredAudioSite Site}
    (placed : Placed key registered ((PlacementHost.machine debug context opener).final start calls)) :
    Registered key registered ((PlacementHost.machine debug context opener).trace start calls) := by
  refine Machine.since_of _ step_row ?_ calls placed
  intro found
  rw [Placed, empty] at found
  cases found.symm.trans ExtTreeMap.getElem?_empty

variable {held : κ → CapabilityName → Prop} {ledger : κ → List Effect} {past : List (PlacementEvent Site κ ν δ ω)}
  {before : PlacementHost Site κ ω}

private theorem open_ends (laws : context.Ledgers held ledger)
    (stands : ∀ key registered, Placed key registered before → Registered key registered past)
    (request : AudioPlacementRequest) :
    let outcome := before.router.openPlacementChecked debug context opener.logged before.cx request before.world
    OpenEnds debug context held ledger opener past before request outcome.1
      { before with cx := outcome.2.1, world := outcome.2.2 } := by
  intro outcome
  have shape : outcome = before.router.openPlacementChecked debug context opener.logged before.cx request before.world := rfl
  clear_value outcome
  unfold openPlacementChecked openPlacement at shape
  cases placed : before.router.sites[request.siteKey]? with
  | none =>
    rw [if_neg (by rw [ProviderLoad.contains_iff]; exact not_not.mpr placed)] at shape
    rw [shape]
    exact .unplaced placed
  | some registered =>
    rw [if_pos (by rw [ProviderLoad.contains_iff, placed]; exact nofun), placed] at shape
    by_cases authority : held before.cx streamHostCapability
    · cases enforced : request.streamRequest.placementPlan.enforce context before.cx with
      | mk result cx =>
        rw [enforced] at shape
        cases result with
        | error error =>
          rw [shape]
          have whole : ∀ capability ∈ request.streamRequest.placementPlan.requires, held before.cx capability :=
            List.forall_mem_singleton.mpr authority
          exact .unresolved authority enforced (HostOpenPlan.enforce_unresolved laws whole enforced)
        | ok =>
          have recorded := (HostOpenPlan.enforce_ok laws (congrArg Prod.fst enforced)).2
          rw [enforced] at recorded
          rw [shape]
          exact .reached authority recorded placed (stands _ _ placed) rfl
    · have refused : ∃ error, request.streamRequest.placementPlan.enforce context before.cx = (.error error, before.cx) :=
        HostOpenPlan.enforce_denied laws List.mem_cons_self authority
      obtain ⟨error, denied⟩ := refused
      rw [denied] at shape
      rw [shape]
      exact .denied authority denied

private theorem resolve_ends (stands : ∀ key registered, Placed key registered before → Registered key registered past)
    (key modeled : AudioSiteKey) :
    ResolveEnds debug past before key modeled (before.router.resolveOrModeled debug key modeled) := by
  unfold resolveOrModeled
  cases placed : before.router.sites[key]? with
  | some registered =>
    rw [if_pos (by rw [ProviderLoad.contains_iff, placed]; exact nofun)]
    exact .own placed (stands _ _ placed)
  | none =>
    rw [if_neg (by rw [ProviderLoad.contains_iff]; exact not_not.mpr placed)]
    cases modeledPlaced : before.router.sites[modeled]? with
    | some registered =>
      rw [if_pos (by rw [ProviderLoad.contains_iff, modeledPlaced]; exact nofun)]
      exact .fallback placed modeledPlaced (stands _ _ modeledPlaced)
    | none =>
      rw [if_neg (by rw [ProviderLoad.contains_iff]; exact not_not.mpr modeledPlaced)]
      exact .missing placed modeledPlaced

/-- Over every run from an empty router: a checked open asks a site only with the
authority, after recording the effects of its request, and it asks the one site that the
row's owner has registered under the key and not withdrawn since; resolved keys lead to
such rows too; and nothing else touches the context or the sites. -/
theorem placements_reach_standing_sites (laws : context.Ledgers held ledger) {start : PlacementHost Site κ ω}
    (empty : start.router = .new) (calls : List (PlacementCall Site)) {past later : List (PlacementEvent Site κ ν δ ω)}
    {event : PlacementEvent Site κ ν δ ω}
    (split : (PlacementHost.machine debug context opener).trace start calls = past ++ event :: later) :
    match event.input with
    | .openPlacementChecked request => ∃ result, event.output = .opened result ∧
        OpenEnds debug context held ledger opener past event.before request result event.after
    | .resolveOrModeled key modeled => event.after = event.before ∧
        ∃ result, event.output = .resolved result ∧ ResolveEnds debug past event.before key modeled result
    | .route _ => event.after.cx = event.before.cx ∧ event.after.world = event.before.world := by
  obtain ⟨earlier, rfl, same⟩ := Machine.trace_split _ split
  have stands (key : AudioSiteKey) (registered : RegisteredAudioSite Site) :
      Placed key registered ((PlacementHost.machine debug context opener).final start earlier) →
        Registered key registered ((PlacementHost.machine debug context opener).trace start earlier) :=
    row_stands empty earlier
  rw [same]
  cases event.input with
  | openPlacementChecked request => exact ⟨_, rfl, open_ends laws stands request⟩
  | resolveOrModeled key modeled => exact ⟨rfl, _, rfl, resolve_ends stands key modeled⟩
  | route call => exact ⟨rfl, rfl⟩

end Steps

abbrev FakeSite := BackedAudioSite Unit (BoundedItems Nat) Unit

def fakeSite : FakeSite where
  deviceCard := .modeled (.new "fake/pcm") "Fake audio"
  backend := (FakeBackend.new CheckedOpens.plainClocks ⟨4⟩).backend CheckedOpens.plainClocks (boundedStream Nat)

def fakeHost : PlacementHost FakeSite (List CapabilityName × List Effect) Unit :=
  ⟨.new, ([streamHostCapability], []), ((), [])⟩

def fakePlacement : AudioPlacementRequest := ⟨.new "fake/pcm", CheckedOpens.pcmRequest⟩

theorem registered_site_reached :
    let hosts := PlacementHost.machine (·.symbol.name) plainContext BackedAudioSite.openStream
    let first := hosts.event fakeHost (.route (.registerOwned (.new "provider") fakeSite))
    let second := hosts.event first.after (.openPlacementChecked fakePlacement)
    ∃ result, second.output = .opened result ∧
      OpenEnds (·.symbol.name) plainContext (fun cx capability => capability ∈ cx.1) Prod.snd BackedAudioSite.openStream [first]
        first.after fakePlacement result second.after := by
  intro hosts first second
  have split : hosts.trace fakeHost [first.input, second.input] = [first] ++ second :: [] := rfl
  exact placements_reach_standing_sites plainContext_ledgers rfl [first.input, second.input] split

end StreamHost.Proofs.PlacementOpens
