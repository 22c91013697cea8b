import StreamHost.Lib.Result
import StreamHost.Proofs.ProviderLoad

/-! Who owns the rows of the audio router, over every run of registrations,
reloads, removals and provider loads. -/

namespace StreamHost.Proofs.SiteOwnership
open Std AudioRouter RouterAudioProviderRegistrar ProviderLoad

variable {Site : Type} [AudioSite Site]

def row (router : AudioRouter Site) (key : AudioSiteKey) : Option (RegisteredAudioSite Site) := router.sites[key]?

/-- A call keeps the rows it does not remove by owner, and their owners; it replaces
a site only as a reload of that owner. -/
def HoldsRows (call : RouterCall Site) (before after : AudioRouter Site) : Prop :=
  ∀ key held, row before key = some held → call ≠ .unregisterOwner held.owner →
    ∃ kept, row after key = some kept ∧ kept.owner = held.owner ∧ (kept ≠ held → call = .reloadOwned held.owner kept.site)

theorem HoldsRows.unchanged {call : RouterCall Site} {before after : AudioRouter Site}
    (same : ∀ key held, row before key = some held → row after key = some held) : HoldsRows call before after :=
  fun key held found _ => ⟨held, same key held found, rfl, fun changed => absurd rfl changed⟩

theorem put_rows (owner : Symbol) (site : Site) (router : AudioRouter Site) (key : AudioSiteKey) :
    row (router.put owner site) key = if AudioSite.key site = key then some ⟨owner, site⟩ else row router key :=
  OrdMap.getElem?_insert ..

private theorem put_free {owner : Symbol} {site : Site} {router : AudioRouter Site}
    (free : row router (AudioSite.key site) = none) (call : RouterCall Site) :
    HoldsRows call router (router.put owner site) := by
  apply HoldsRows.unchanged
  intro key held found
  rw [put_rows, if_neg, found]
  rintro rfl
  cases free.symm.trans found

private theorem registerOwned_holds (owner : Symbol) (site : Site) (router : AudioRouter Site) :
    HoldsRows (.registerOwned owner site) router (router.registerOwned owner site).2 := by
  cases found : router.sites[AudioSite.key site]? with
  | some taken =>
    rw [registerOwned_taken owner (by rw [found]; exact nofun)]
    exact .unchanged fun _ _ => id
  | none =>
    rw [registerOwned_free owner found]
    exact put_free found _

private theorem reloadOwned_holds (owner : Symbol) (site : Site) (router : AudioRouter Site) :
    HoldsRows (.reloadOwned owner site) router (router.reloadOwned owner site).2 := by
  unfold reloadOwned
  split
  · rename_i existing found
    split
    · exact .unchanged fun _ _ => id
    · rename_i same
      rw [ne_eq, not_not] at same
      intro key held stored _
      simp only [put_rows]
      by_cases here : AudioSite.key site = key
      · subst here
        obtain rfl : existing = held := Option.some.inj (found.symm.trans stored)
        rw [if_pos rfl]
        exact ⟨_, rfl, same.symm, fun _ => by rw [same]⟩
      · rw [if_neg here]
        exact ⟨held, stored, rfl, fun changed => absurd rfl changed⟩
  · rename_i free
    exact put_free free _

section Unregister
variable (owner : Symbol) (router : AudioRouter Site)

def ownedRows : List (AudioSiteKey × RegisteredAudioSite Site) :=
  router.sites.toList.filter fun entry => entry.2.owner = owner

theorem withoutOwner_rows (key : AudioSiteKey) :
    row (router.withoutOwner owner) key = (row router key).filter fun held => held.owner ≠ owner :=
  ExtTreeMap.getElem?_filter'

private theorem withoutOwner_holds : HoldsRows (.unregisterOwner owner) router (router.withoutOwner owner) := by
  intro key held found other
  refine ⟨held, ?_, rfl, fun changed => absurd rfl changed⟩
  rw [withoutOwner_rows, found, Option.filter_some, if_pos]
  exact decide_eq_true fun same => other (by rw [same])

private theorem unregisterOwner_count : (router.unregisterOwner owner).1 = (ownedRows owner router).length := by
  have split : router.sites.toList.length = (ownedRows owner router).length +
      (router.sites.toList.filter fun entry => !decide (entry.2.owner = owner)).length :=
    List.length_eq_length_filter_add _
  have kept : (router.withoutOwner owner).sites.toList =
      router.sites.toList.filter fun entry => !decide (entry.2.owner = owner) := by
    simp only [withoutOwner, ne_eq, decide_not, ExtTreeMap.toList_filter]
  rw [unregisterOwner, ← ExtTreeMap.length_toList, ← ExtTreeMap.length_toList, kept, split]
  exact Nat.add_sub_cancel _ _

end Unregister

section Load

/-- What the registrar carries through all its registrations. -/
theorem registers_seam {registrar next : RouterAudioProviderRegistrar Site} {site : Site}
    (registers : Registers registrar site next) :
    next.owner = registrar.owner ∧ next.allowedSites = registrar.allowedSites := by
  cases registers with
  | ignored | refused | added => exact ⟨rfl, rfl⟩

/-- Every row the registrar adds is its owner's, under a key it allows. -/
theorem registerSites_adds {registrar : RouterAudioProviderRegistrar Site} (sites : List Site) {key : AudioSiteKey}
    {held : RegisteredAudioSite Site} (free : row registrar.router key = none)
    (found : row (registrar.registerSites sites).router key = some held) :
    held.owner = registrar.owner ∧ registrar.allows key.symbol = true := by
  induction sites generalizing registrar with
  | nil => cases free.symm.trans found
  | cons site rest ih =>
    have step := registers registrar site
    obtain ⟨sameOwner, sameAllowed⟩ := registers_seam step
    have sameAllows (symbol : Symbol) : (registrar.registerSite site).allows symbol = registrar.allows symbol := by
      rw [allows, allows, sameAllowed]
    rw [← sameOwner, ← sameAllows]
    have unfolded : registrar.registerSites (site :: rest) = (registrar.registerSite site).registerSites rest := rfl
    rw [unfolded] at found
    cases added : row (registrar.registerSite site).router key with
    | none => exact ih added found
    | some first =>
      obtain rfl : first = held := Option.some.inj ((registerSites_keeps added rest).symm.trans found)
      rw [sameOwner, sameAllows]
      generalize registrar.registerSite site = next at step added
      cases step with
      | ignored | refused => cases free.symm.trans added
      | added _ fit =>
        rw [row, withSite_rows] at added
        split at added
        · rename_i same
          cases added
          exact ⟨rfl, same ▸ fit.1⟩
        · cases free.symm.trans added

private theorem registerSites_append (registrar : RouterAudioProviderRegistrar Site) (earlier later : List Site) :
    registrar.registerSites (earlier ++ later) = (registrar.registerSites earlier).registerSites later :=
  List.foldl_append

private theorem collect_declared {id : Symbol} {exports : List Export} {before declared : ExtTreeSet Symbol}
    (collected : exports.foldlM (AudioProviderSiteExports.collect id) before = .ok declared) {symbol : Symbol}
    (found : declared.contains symbol = true) :
    before.contains symbol = true ∨ (.site symbol ∈ exports ∧ symbol.ns = some "audio/site") := by
  induction exports generalizing before with
  | nil =>
    cases collected
    exact .inl found
  | cons first rest ih =>
    rw [List.foldlM_cons, Except.bind_eq_ok] at collected
    obtain ⟨next, step, collected⟩ := collected
    rcases ih collected with inNext | ⟨listed, spaced⟩
    · cases first with
      | other =>
        cases step
        exact .inl inNext
      | site declaredSymbol =>
        rw [AudioProviderSiteExports.collect] at step
        split at step
        · cases step
        · rename_i spaced
          cases step
          rw [ExtTreeSet.contains_insert, Bool.or_eq_true, beq_iff_eq, Std.compare_eq_iff_eq] at inNext
          rcases inNext with rfl | inBefore
          · exact .inr ⟨List.mem_cons_self, not_not.mp spaced⟩
          · exact .inl inBefore
    · exact .inr ⟨List.mem_cons_of_mem _ listed, spaced⟩

private theorem fromManifest_declared {manifest : LibManifest} {declared : ExtTreeSet Symbol}
    (accepted : AudioProviderSiteExports.fromManifest manifest = .ok declared) {symbol : Symbol}
    (found : declared.contains symbol = true) : .site symbol ∈ manifest.exports ∧ symbol.ns = some "audio/site" := by
  rw [AudioProviderSiteExports.fromManifest, Except.bind_eq_ok] at accepted
  obtain ⟨symbols, collected, accepted⟩ := accepted
  split at accepted
  · cases accepted
  · cases accepted
    rcases collect_declared collected found with absent | declaredHere
    · cases (ExtTreeSet.contains_empty).symm.trans absent
    · exact declaredHere

/-- The registrar of a load after it has registered `sites`. -/
def loading (manifest : LibManifest) (declared : ExtTreeSet Symbol) (router : AudioRouter Site) (sites : List Site) :
    RouterAudioProviderRegistrar Site := (forProvider router manifest.id declared).registerSites sites

variable {manifest : LibManifest} {proofEntries : AudioProviderProofEntries Site} {router : AudioRouter Site}

theorem load_accepted {declared : ExtTreeSet Symbol} {entry : AudioProviderEntry Site}
    (accepted : AudioProviderSiteExports.fromManifest manifest = .ok declared)
    (found : proofEntries.entry manifest.id = .ok entry) :
    (registerProviderLib manifest proofEntries router).2 = (loading manifest declared router entry.sites).router := by
  simp only [registerProviderLib, accepted, found]
  cases entry.result <;> rfl

variable (manifest proofEntries router) in
private theorem load_cases : (registerProviderLib manifest proofEntries router).2 = router ∨
    ∃ declared, ∃ entry : AudioProviderEntry Site, AudioProviderSiteExports.fromManifest manifest = .ok declared ∧
      (registerProviderLib manifest proofEntries router).2 = (loading manifest declared router entry.sites).router := by
  cases accepted : AudioProviderSiteExports.fromManifest manifest with
  | error error =>
    left
    simp only [registerProviderLib, accepted]
  | ok declared =>
    cases found : proofEntries.entry manifest.id with
    | error error =>
      left
      simp only [registerProviderLib, accepted, found]
    | ok entry => exact .inr ⟨declared, entry, rfl, load_accepted accepted found⟩

variable (manifest proofEntries router) in
theorem load_holds :
    HoldsRows (.registerProviderLib manifest proofEntries) router (registerProviderLib manifest proofEntries router).2 := by
  apply HoldsRows.unchanged
  intro key held found
  rcases load_cases manifest proofEntries router with same | ⟨declared, entry, _, loaded⟩
  · rw [same]
    exact found
  · have start : (forProvider router manifest.id declared).router.sites[key]? = some held := found
    rw [loaded]
    exact registerSites_keeps start entry.sites

/-- A row that a load adds is the manifest's own, under a key it exports. -/
theorem load_adds {key : AudioSiteKey} {held : RegisteredAudioSite Site} (free : row router key = none)
    (found : row (registerProviderLib manifest proofEntries router).2 key = some held) :
    held.owner = manifest.id ∧ .site key.symbol ∈ manifest.exports ∧ key.symbol.ns = some "audio/site" := by
  rcases load_cases manifest proofEntries router with same | ⟨declared, entry, accepted, loaded⟩
  · rw [same, free] at found
    cases found
  · have start : row (forProvider router manifest.id declared).router key = none := free
    rw [loaded] at found
    obtain ⟨owned, allowed⟩ := registerSites_adds entry.sites start found
    exact ⟨owned, fromManifest_declared accepted allowed⟩

/-- Nothing is added after the first recorded error. -/
theorem load_stops {declared : ExtTreeSet Symbol} {earlier later : List Site}
    (failed : (loading manifest declared router earlier).registrationError ≠ none) :
    (loading manifest declared router (earlier ++ later)).router = (loading manifest declared router earlier).router := by
  obtain ⟨error, recorded⟩ := Option.ne_none_iff_exists'.mp failed
  rw [loading, registerSites_append]
  exact congrArg RouterAudioProviderRegistrar.router (registerSites_failed recorded later)

end Load

abbrev RouterEvent (Site : Type) [AudioSite Site] := Machine.Event (AudioRouter Site) (RouterCall Site) RouterAnswer

/-- What one call may do to the rows of the router and their owners. -/
structure KeepsOwners (event : RouterEvent Site) : Prop where
  keyed : ∀ key held, row event.after key = some held → AudioSite.key held.site = key
  holds : HoldsRows event.input event.before event.after
  loads : ∀ manifest proofEntries, event.input = .registerProviderLib manifest proofEntries →
    ∀ key held, row event.before key = none → row event.after key = some held →
      held.owner = manifest.id ∧ .site key.symbol ∈ manifest.exports ∧ key.symbol.ns = some "audio/site"
  stops : ∀ manifest proofEntries declared entry earlier later,
    event.input = .registerProviderLib manifest proofEntries →
    AudioProviderSiteExports.fromManifest manifest = .ok declared → proofEntries.entry manifest.id = .ok entry →
    entry.sites = earlier ++ later → (loading manifest declared event.before earlier).registrationError ≠ none →
    event.after = (loading manifest declared event.before earlier).router
  unregisters : ∀ owner, event.input = .unregisterOwner owner →
    (∀ key, row event.after key = (row event.before key).filter fun held => held.owner ≠ owner) ∧
      event.output = .removed (ownedRows owner event.before).length

theorem step_holds (router : AudioRouter Site) (call : RouterCall Site) :
    HoldsRows call router ((AudioRouter.machine Site).step router call).2 := by
  cases call with
  | registerOwned owner site => exact registerOwned_holds owner site router
  | reloadOwned owner site => exact reloadOwned_holds owner site router
  | unregisterOwner owner => exact withoutOwner_holds owner router
  | registerProviderLib manifest proofEntries => exact load_holds manifest proofEntries router

private theorem step_keeps (router : AudioRouter Site) (call : RouterCall Site) :
    KeepsOwners ((AudioRouter.machine Site).event router call) where
  keyed := ((AudioRouter.machine Site).step router call).2.keyed
  holds := step_holds router call
  loads := by
    rintro manifest proofEntries rfl key held free found
    exact load_adds free found
  stops := by
    rintro manifest proofEntries declared entry earlier later rfl accepted found split failed
    rw [← load_stops failed, ← split]
    exact load_accepted accepted found
  unregisters := by
    rintro owner rfl
    exact ⟨withoutOwner_rows owner router, congrArg RouterAnswer.removed (unregisterOwner_count owner router)⟩

/-- A change of owner goes through a removal of the row by its owner. -/
theorem owner_kept (router : AudioRouter Site) (calls : List (RouterCall Site)) {key : AudioSiteKey}
    {held now : RegisteredAudioSite Site} (before : row router key = some held)
    (after : row ((AudioRouter.machine Site).final router calls) key = some now) (changed : now.owner ≠ held.owner) :
    ∃ event ∈ (AudioRouter.machine Site).trace router calls, event.input = .unregisterOwner held.owner ∧
      (∃ last, row event.before key = some last ∧ last.owner = held.owner) ∧ row event.after key = none := by
  induction calls generalizing router held with
  | nil =>
    obtain rfl : held = now := Option.some.inj (before.symm.trans after)
    exact absurd rfl changed
  | cons call rest ih =>
    rw [Machine.trace_cons]
    by_cases removes : call = .unregisterOwner held.owner
    · subst removes
      refine ⟨_, List.mem_cons_self, rfl, ⟨held, before, rfl⟩, ?_⟩
      exact (withoutOwner_rows held.owner router key).trans (by rw [before]; simp)
    · obtain ⟨kept, still, sameOwner, _⟩ := step_holds router call key held before removes
      obtain ⟨event, member, removed⟩ := ih _ still after (by rwa [sameOwner])
      rw [sameOwner] at removed
      exact ⟨event, List.mem_cons_of_mem _ member, removed⟩

/-- Over every run from an empty router each call keeps rows and owners, and a
key changes owner only after its owner has removed it. -/
theorem ownership_kept (earlier later : List (RouterCall Site)) :
    (∀ event ∈ (AudioRouter.machine Site).trace .new (earlier ++ later), KeepsOwners event) ∧
      ∀ key held now, row ((AudioRouter.machine Site).final .new earlier) key = some held →
        row ((AudioRouter.machine Site).final .new (earlier ++ later)) key = some now → now.owner ≠ held.owner →
        ∃ event ∈ (AudioRouter.machine Site).trace ((AudioRouter.machine Site).final .new earlier) later,
          event.input = .unregisterOwner held.owner ∧
          (∃ last, row event.before key = some last ∧ last.owner = held.owner) ∧ row event.after key = none := by
  constructor
  · exact Machine.trace_forall _ (fun _ => True) KeepsOwners (fun _ _ _ => trivial)
      (fun router call _ => step_keeps router call) trivial _
  · intro key held now before after changed
    rw [Machine.final_append] at after
    exact owner_kept _ later before after changed

end StreamHost.Proofs.SiteOwnership
