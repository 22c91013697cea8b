import StreamHost.Provider

/-! When a failed provider load leaves the router as it was. Sites are registered
one by one and the first error is only reported at the end, so a load is all or
nothing exactly when its first site already fails or nothing fails at all. -/

namespace StreamHost.Proofs.ProviderLoad
open Std RouterAudioProviderRegistrar

variable {Site : Type} [AudioSite Site]

def Accepts (registrar : RouterAudioProviderRegistrar Site) (site : Site) : Prop :=
  registrar.allows (AudioSite.key site).symbol = true ∧ registrar.router.sites[AudioSite.key site]? = none

def withSite (registrar : RouterAudioProviderRegistrar Site) (site : Site) : RouterAudioProviderRegistrar Site :=
  { registrar with router := registrar.router.put registrar.owner site }

theorem withSite_row (registrar : RouterAudioProviderRegistrar Site) (site : Site) :
    (withSite registrar site).router.sites[AudioSite.key site]? = some ⟨registrar.owner, site⟩ :=
  ExtTreeMap.getElem?_insert_self

theorem withSite_rows (registrar : RouterAudioProviderRegistrar Site) (site : Site) (key : AudioSiteKey) :
    (withSite registrar site).router.sites[key]? =
      if AudioSite.key site = key then some ⟨registrar.owner, site⟩ else registrar.router.sites[key]? :=
  OrdMap.getElem?_insert ..

inductive Registers (registrar : RouterAudioProviderRegistrar Site) (site : Site) :
    RouterAudioProviderRegistrar Site → Prop where
  | ignored {error} (failed : registrar.registrationError = some error) : Registers registrar site registrar
  | refused (clear : registrar.registrationError = none) (unfit : ¬ Accepts registrar site) (error : Error) :
      Registers registrar site { registrar with registrationError := some error }
  | added (clear : registrar.registrationError = none) (fit : Accepts registrar site) :
      Registers registrar site (withSite registrar site)

theorem contains_iff (router : AudioRouter Site) (key : AudioSiteKey) :
    router.sites.contains key = true ↔ router.sites[key]? ≠ none := by
  rw [ExtTreeMap.contains_eq_isSome_getElem?, Option.isSome_iff_ne_none]

theorem registerOwned_free {router : AudioRouter Site} {site : Site} (owner : Symbol)
    (free : router.sites[AudioSite.key site]? = none) :
    router.registerOwned owner site = (.ok (), router.put owner site) :=
  if_neg (by rw [contains_iff]; exact not_not.mpr free)

theorem registerOwned_taken {router : AudioRouter Site} {site : Site} (owner : Symbol)
    (taken : router.sites[AudioSite.key site]? ≠ none) : router.registerOwned owner site =
      (.error (.eval s!"audio site {(AudioSite.key site).symbol} is already registered"), router) :=
  if_pos ((contains_iff router _).mpr taken)

private theorem recordError_clear {registrar : RouterAudioProviderRegistrar Site} (error : Error)
    (clear : registrar.registrationError = none) :
    recordError error registrar = { registrar with registrationError := some error } :=
  if_pos (by rw [clear]; rfl)

private theorem registerSite_failed {registrar : RouterAudioProviderRegistrar Site} {error : Error}
    (failed : registrar.registrationError = some error) (site : Site) : registrar.registerSite site = registrar :=
  if_pos (by rw [failed]; rfl)

theorem registers (registrar : RouterAudioProviderRegistrar Site) (site : Site) :
    Registers registrar site (registrar.registerSite site) := by
  cases clear : registrar.registrationError with
  | some error =>
    rw [registerSite_failed clear]
    exact .ignored clear
  | none =>
    have running : ¬ registrar.registrationError.isSome = true := by rw [clear]; exact Bool.false_ne_true
    unfold registerSite
    rw [if_neg running]
    by_cases allowed : registrar.allows (AudioSite.key site).symbol = true
    · rw [if_pos allowed]
      cases found : registrar.router.sites[AudioSite.key site]? with
      | some row =>
        rw [registerOwned_taken registrar.owner (by rw [found]; exact nofun)]
        simp only [recordError_clear _ clear]
        exact .refused clear (fun fit => nomatch fit.2.symm.trans found) _
      | none =>
        rw [registerOwned_free registrar.owner found]
        exact .added clear ⟨allowed, found⟩
    · rw [if_neg allowed, recordError_clear _ clear]
      exact .refused clear (fun fit => allowed fit.1) _

theorem registerSites_failed {registrar : RouterAudioProviderRegistrar Site} {error : Error}
    (failed : registrar.registrationError = some error) (sites : List Site) :
    registrar.registerSites sites = registrar := by
  induction sites with
  | nil => rfl
  | cons site rest ih =>
    rw [registerSites, List.foldl_cons, registerSite_failed failed]
    exact ih

theorem registerSites_keeps {registrar : RouterAudioProviderRegistrar Site} {key : AudioSiteKey}
    {row : RegisteredAudioSite Site} (held : registrar.router.sites[key]? = some row) (sites : List Site) :
    (registrar.registerSites sites).router.sites[key]? = some row := by
  induction sites generalizing registrar with
  | nil => exact held
  | cons site rest ih =>
    refine ih ?_
    have step := registers registrar site
    generalize registrar.registerSite site = next at step
    cases step with
    | ignored | refused => exact held
    | added clear fit =>
      rw [withSite_rows, if_neg, held]
      rintro rfl
      cases fit.2.symm.trans held

/-- A registrar without error leaves the router alone exactly when it refuses the first site. -/
theorem registerSites_leaves_iff {registrar : RouterAudioProviderRegistrar Site}
    (clear : registrar.registrationError = none) (sites : List Site) :
    (registrar.registerSites sites).router.sites = registrar.router.sites ↔
      ∀ site ∈ sites.head?, ¬ Accepts registrar site := by
  cases sites with
  | nil => exact iff_of_true rfl nofun
  | cons site rest =>
    have step := registers registrar site
    have unfolded : registrar.registerSites (site :: rest) = (registrar.registerSite site).registerSites rest := rfl
    rw [unfolded]
    generalize registrar.registerSite site = next at step
    simp only [List.head?_cons, Option.mem_some_iff, forall_eq']
    cases step with
    | ignored failed => cases clear.symm.trans failed
    | refused _ unfit error =>
      refine iff_of_true ?_ unfit
      rw [registerSites_failed rfl rest]
    | added _ fit =>
      refine iff_of_false (fun same => ?_) (not_not.mpr fit)
      have kept := registerSites_keeps (withSite_row registrar site) rest
      rw [same, fit.2] at kept
      cases kept

/-- Nothing fails exactly when every site is declared, free and registered once. -/
theorem registerSites_clear_iff {registrar : RouterAudioProviderRegistrar Site}
    (clear : registrar.registrationError = none) (sites : List Site) :
    (registrar.registerSites sites).registrationError = none ↔
      (∀ site ∈ sites, Accepts registrar site) ∧ (sites.map AudioSite.key).Nodup := by
  induction sites generalizing registrar with
  | nil => exact iff_of_true clear ⟨nofun, List.nodup_nil⟩
  | cons site rest ih =>
    have step := registers registrar site
    have unfolded : registrar.registerSites (site :: rest) = (registrar.registerSite site).registerSites rest := rfl
    rw [unfolded]
    generalize registrar.registerSite site = next at step
    rw [List.forall_mem_cons, List.map_cons, List.nodup_cons]
    cases step with
    | ignored failed => cases clear.symm.trans failed
    | refused _ unfit error =>
      refine iff_of_false (fun none => ?_) fun accepted => unfit accepted.1.1
      rw [registerSites_failed rfl rest] at none
      cases none
    | added _ fit =>
      -- A later site is accepted now and after this one when its key is another.
      have later (other : Site) : Accepts (withSite registrar site) other ↔
          Accepts registrar other ∧ AudioSite.key site ≠ AudioSite.key other := by
        rw [Accepts, Accepts, withSite_rows, and_assoc]
        refine and_congr_right fun _ => ?_
        split
        · rename_i same; exact iff_of_false nofun fun free => free.2 same
        · rename_i distinct; exact (and_iff_left distinct).symm
      have still : (withSite registrar site).registrationError = none := clear
      rw [ih still]
      simp only [later, forall_and, List.mem_map, not_exists, not_and]
      constructor
      · rintro ⟨⟨accepted, distinct⟩, once⟩
        exact ⟨⟨fit, accepted⟩, fun other member same => distinct other member same.symm, once⟩
      · rintro ⟨⟨_, accepted⟩, distinct, once⟩
        exact ⟨⟨accepted, fun other member same => distinct other member same.symm⟩, once⟩

/-- The load can add a row for the site to the router as it is. -/
def Registrable (declared : ExtTreeSet Symbol) (router : AudioRouter Site) (site : Site) : Prop :=
  declared.contains (AudioSite.key site).symbol = true ∧ router.sites[AudioSite.key site]? = none

/-- The entry's first site is refused, or nothing about the entry fails. -/
def Harmless (declared : ExtTreeSet Symbol) (entry : AudioProviderEntry Site) (router : AudioRouter Site) : Prop :=
  (∀ site ∈ entry.sites.head?, ¬ Registrable declared router site) ∨
    (entry.result = .ok () ∧ (∀ site ∈ entry.sites, Registrable declared router site) ∧
      (entry.sites.map AudioSite.key).Nodup)

/-- A load that fails leaves the rows of the router as they were. -/
def AllOrNothing (manifest : LibManifest) (proofEntries : AudioProviderProofEntries Site) (router : AudioRouter Site) :
    Prop :=
  ∀ error, (registerProviderLib manifest proofEntries router).1 = .error error →
    (registerProviderLib manifest proofEntries router).2.sites = router.sites

theorem all_or_nothing_iff (manifest : LibManifest) (proofEntries : AudioProviderProofEntries Site)
    (router : AudioRouter Site) : AllOrNothing manifest proofEntries router ↔
      ∀ declared entry, AudioProviderSiteExports.fromManifest manifest = .ok declared →
        proofEntries.entry manifest.id = .ok entry → Harmless declared entry router := by
  unfold AllOrNothing registerProviderLib
  cases accepted : AudioProviderSiteExports.fromManifest manifest with
  | error error => exact iff_of_true (fun _ _ => rfl) nofun
  | ok declared =>
    cases found : proofEntries.entry manifest.id with
    | error error => exact iff_of_true (fun _ _ => rfl) nofun
    | ok entry =>
      have clear : (RouterAudioProviderRegistrar.forProvider router manifest.id declared).registrationError = none := rfl
      have leaves : _ ↔ ∀ site ∈ entry.sites.head?, ¬ Registrable declared router site :=
        registerSites_leaves_iff clear entry.sites
      have succeeds : _ ↔ (∀ site ∈ entry.sites, Registrable declared router site) ∧ _ :=
        registerSites_clear_iff clear entry.sites
      simp only [Except.ok.injEq, forall_eq', forall_apply_eq_imp_iff, Harmless, ← leaves, ← succeeds]
      generalize (RouterAudioProviderRegistrar.forProvider router manifest.id declared).registerSites entry.sites = done
      cases entry.result with
      | error error => simp [RouterAudioProviderRegistrar.forProvider]
      | ok =>
        rw [finish]
        cases done.registrationError <;> simp [RouterAudioProviderRegistrar.forProvider]

def fixtureProvider : Symbol := .qualified "audio/provider" "modeled-fixture"

def fixtureSite (name : String) : ModeledAudioSite := ⟨.modeled ⟨.qualified "audio/site" name⟩ name⟩

def fixtureManifest : LibManifest := ⟨fixtureProvider, [.site (.qualified "audio/site" "first")]⟩

/-- A provider whose second site is undeclared leaves its first site behind. -/
theorem second_site_fails_after_first :
    ¬ ∀ (Site : Type) (_ : AudioSite Site) (manifest : LibManifest) (proofEntries : AudioProviderProofEntries Site)
      (router : AudioRouter Site), AllOrNothing manifest proofEntries router := by
  intro always
  let entry : AudioProviderEntry ModeledAudioSite := ⟨[fixtureSite "first", fixtureSite "second"], .ok ()⟩
  let entries : AudioProviderProofEntries ModeledAudioSite :=
    (∅ : ExtTreeMap Symbol (AudioProviderEntry ModeledAudioSite)).insert fixtureProvider entry
  have failed : (registerProviderLib fixtureManifest entries .new).1 =
      .error (.hostError "audio provider audio/provider/modeled-fixture registered undeclared site audio/site/second") := by
    decide
  have unchanged := always ModeledAudioSite _ fixtureManifest entries .new _ failed
  have left : (registerProviderLib fixtureManifest entries .new).2.sites.contains ⟨.qualified "audio/site" "first"⟩ = true := by
    decide
  rw [unchanged] at left
  exact absurd left (by decide)

end StreamHost.Proofs.ProviderLoad
