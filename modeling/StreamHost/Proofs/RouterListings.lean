import StreamHost.Catalog
import StreamHost.Lib.SortOn
import StreamHost.Proofs.ProviderLoad

/-! Whether the router's listings show the order of its map. They are sorted by the
printed symbol, which does not tell all symbols apart, and equal prints keep the
map's order. -/

namespace StreamHost.Proofs.RouterListings
open Std AudioRouter ProviderLoad

variable {Site : Type} [AudioSite Site]

def siteKey (row : RegisteredAudioSite Site) : AudioSiteKey := AudioSite.key row.site

/-- The router after registering the rows' sites for their owners, in order. -/
def registerAll (rows : List (RegisteredAudioSite Site)) (router : AudioRouter Site) : AudioRouter Site :=
  rows.foldl (fun router row => (router.registerOwned row.owner row.site).2) router

private theorem values_registerAll (rows : List (RegisteredAudioSite Site)) (router : AudioRouter Site)
    (distinct : (rows.map siteKey).Nodup) (free : ∀ row ∈ rows, router.sites[siteKey row]? = none) :
    (registerAll rows router).sites.values.Perm (rows ++ router.sites.values) := by
  induction rows generalizing router with
  | nil => exact .refl _
  | cons row rest ih =>
    rw [List.map_cons, List.nodup_cons] at distinct
    have absent : router.sites[siteKey row]? = none := free row List.mem_cons_self
    have step : registerAll (row :: rest) router = registerAll rest (router.put row.owner row.site) := by
      unfold registerAll
      rw [List.foldl_cons, registerOwned_free row.owner absent]
    have later : ∀ other ∈ rest, (router.put row.owner row.site).sites[siteKey other]? = none := by
      intro other member
      have apart : siteKey row ≠ siteKey other := by
        intro same
        apply distinct.1
        rw [same]
        exact List.mem_map_of_mem member
      have kept := OrdMap.getElem?_insert router.sites (siteKey row) (siteKey other) ⟨row.owner, row.site⟩
      rw [if_neg apart] at kept
      exact kept.trans (free other (List.mem_cons_of_mem row member))
    rw [step]
    have added : (router.put row.owner row.site).sites.values.Perm (row :: router.sites.values) :=
      OrdMap.values_insert_perm router.sites absent row
    apply (ih _ distinct.2 later).trans
    exact (added.append_left rest).trans List.perm_middle

private theorem values_registered {rows : List (RegisteredAudioSite Site)} (distinct : (rows.map siteKey).Nodup) :
    (registerAll rows .new).sites.values.Perm rows := by
  have empty : (AudioRouter.new : AudioRouter Site).sites.values = [] := rfl
  have all := values_registerAll rows .new distinct fun row _ => ExtTreeMap.getElem?_empty
  rwa [empty, List.append_nil] at all

/-- An order of the map is an order of the registered rows. -/
theorem walk_perm {order rows : List (RegisteredAudioSite Site)} (distinct : (rows.map siteKey).Nodup)
    (same : order.Perm rows) (walk : (registerAll order .new).RegisteredSites) : walk.val.Perm rows := by
  have keys : (order.map siteKey).Nodup := (same.map siteKey).nodup_iff.mpr distinct
  exact (walk.property.trans (values_registered keys)).trans same

def printed (key : AudioSiteKey) : String := key.symbol.asQualifiedStr

def printedId (record : DeviceRecord) : String := record.id.asQualifiedStr

/-- The row's card has the outputs and one of the rates. -/
def Offers (minChannelsOut : UInt16) (preferredRates : List UInt32) (row : RegisteredAudioSite Site) : Prop :=
  minChannelsOut ≤ (AudioSite.card row.site).channelsOut ∧
    ∃ rate ∈ preferredRates, rate ∈ (AudioSite.card row.site).sampleRates

private theorem satisfies_iff (minChannelsOut : UInt16) (preferredRates : List UInt32) (row : RegisteredAudioSite Site) :
    (AudioSite.card row.site).satisfies minChannelsOut preferredRates = true ↔
      Offers minChannelsOut preferredRates row := by
  simp [AudioDeviceCard.satisfies, Offers]

section Capability
variable (minChannelsOut : UInt16) (preferredRates : List UInt32)

def offered (row : RegisteredAudioSite Site) : Option AudioSiteKey :=
  if (AudioSite.card row.site).satisfies minChannelsOut preferredRates then some (siteKey row) else none

private theorem offered_eq_some (row : RegisteredAudioSite Site) (key : AudioSiteKey) :
    offered minChannelsOut preferredRates row = some key ↔
      Offers minChannelsOut preferredRates row ∧ siteKey row = key := by
  rw [← satisfies_iff, offered, Option.ite_none_right_eq_some, Option.some.injEq]

private theorem mem_offered (rows : List (RegisteredAudioSite Site)) (key : AudioSiteKey) :
    key ∈ rows.filterMap (offered minChannelsOut preferredRates) ↔
      ∃ row ∈ rows, Offers minChannelsOut preferredRates row ∧ siteKey row = key := by
  simp only [List.mem_filterMap, offered_eq_some]

private theorem filterMap_offered (rows : List (RegisteredAudioSite Site)) :
    rows.filterMap (offered minChannelsOut preferredRates) =
      (rows.filter fun row => (AudioSite.card row.site).satisfies minChannelsOut preferredRates).map siteKey := by
  rw [← List.filterMap_eq_filter, List.map_filterMap]
  apply List.filterMap_congr
  intro row _
  by_cases fits : (AudioSite.card row.site).satisfies minChannelsOut preferredRates = true
  · simp [offered, fits]
  · simp [offered, fits]

private theorem sitesByCapability_eq {router : AudioRouter Site} (walk : router.RegisteredSites) :
    sitesByCapability walk minChannelsOut preferredRates =
      SortOn.sort printed (walk.val.filterMap (offered minChannelsOut preferredRates)) := by
  rw [filterMap_offered]
  rfl

end Capability

theorem records_eq {router : AudioRouter Site} (walk : router.RegisteredSites) :
    (ProviderAudioSites.fromRegistered walk).records =
      SortOn.sort printedId (walk.val.filterMap fun row => some (ProviderAudioSites.siteRecord row)) := by
  rw [List.filterMap_eq_map']
  rfl

/-- Every order of registering the rows and every order of the map, as one statement about their orders. -/
theorem forall_walks_iff {rows : List (RegisteredAudioSite Site)} (distinct : (rows.map siteKey).Nodup)
    (Same : List (RegisteredAudioSite Site) → List (RegisteredAudioSite Site) → Prop) :
    (∀ order again, order.Perm rows → again.Perm rows → ∀ (walk : (registerAll order .new).RegisteredSites)
      (other : (registerAll again .new).RegisteredSites), Same walk.val other.val) ↔
    ∀ walk other, walk.Perm rows → other.Perm rows → Same walk other := by
  constructor
  · intro every walk other permuted permutedOther
    have back : rows.Perm (registerAll rows .new).sites.values := (values_registered distinct).symm
    exact every rows rows (.refl _) (.refl _) ⟨walk, permuted.trans back⟩ ⟨other, permutedOther.trans back⟩
  · intro every order again permuted permutedAgain walk other
    exact every walk.val other.val (walk_perm distinct permuted walk) (walk_perm distinct permutedAgain other)

/-- The catalog's rows after the router's sites were added to an empty catalog. -/
theorem enumerate_new {ω : Type} (world : ω) {router : AudioRouter Site} (walk : router.RegisteredSites) :
    ((DeviceCatalog.new : DeviceCatalog ω).registerRegisteredSites walk).enumerate world =
      (.ok (ProviderAudioSites.fromRegistered walk).records, world) := by
  unfold DeviceCatalog.registerRegisteredSites
  split
  · rename_i empty
    rw [List.isEmpty_iff.mp empty]
    rfl
  · change (Except.ok ((ProviderAudioSites.fromRegistered walk).records ++ []), world) = _
    rw [List.append_nil]

/-- One listing and one run of catalog rows, whatever the order of registering and the order of the map. -/
def Canonical {ω : Type} (world : ω) (rows : List (RegisteredAudioSite Site)) (minChannelsOut : UInt16)
    (preferredRates : List UInt32) : Prop :=
  ∀ order again, order.Perm rows → again.Perm rows → ∀ (walk : (registerAll order .new).RegisteredSites)
    (other : (registerAll again .new).RegisteredSites),
    sitesByCapability walk minChannelsOut preferredRates = sitesByCapability other minChannelsOut preferredRates ∧
    ∀ catalog : DeviceCatalog ω, (catalog.registerRegisteredSites walk).enumerate world =
      (catalog.registerRegisteredSites other).enumerate world

/-- A listing holds the keys of the fitting rows, each once. -/
def ListsOffers (rows : List (RegisteredAudioSite Site)) (minChannelsOut : UInt16) (preferredRates : List UInt32) : Prop :=
  ∀ order, order.Perm rows → ∀ walk : (registerAll order .new).RegisteredSites,
    (sitesByCapability walk minChannelsOut preferredRates).Nodup ∧
    ∀ key, key ∈ sitesByCapability walk minChannelsOut preferredRates ↔
      ∃ row ∈ rows, Offers minChannelsOut preferredRates row ∧ siteKey row = key

/-- Fitting rows whose keys print alike have one key, and rows whose cards' keys print alike
have one catalog row. -/
structure PrintsApart (rows : List (RegisteredAudioSite Site)) (minChannelsOut : UInt16)
    (preferredRates : List UInt32) : Prop where
  keys : ∀ first ∈ rows, ∀ second ∈ rows, Offers minChannelsOut preferredRates first →
    Offers minChannelsOut preferredRates second → printed (siteKey first) = printed (siteKey second) →
    siteKey first = siteKey second
  cards : ∀ first ∈ rows, ∀ second ∈ rows,
    printed (AudioSite.card first.site).key = printed (AudioSite.card second.site).key →
    ProviderAudioSites.siteRecord first = ProviderAudioSites.siteRecord second

section Canonical
variable {rows : List (RegisteredAudioSite Site)} (minChannelsOut : UInt16) (preferredRates : List UInt32)

private theorem listsOffers (distinct : (rows.map siteKey).Nodup) : ListsOffers rows minChannelsOut preferredRates := by
  intro order permuted walk
  have same := walk_perm distinct permuted walk
  rw [sitesByCapability_eq]
  constructor
  · rw [(SortOn.sort_perm _ _).nodup_iff]
    have keys : (walk.val.map siteKey).Nodup := (same.map siteKey).nodup_iff.mpr distinct
    apply List.Nodup.sublist _ keys
    rw [filterMap_offered]
    exact List.filter_sublist.map siteKey
  · intro key
    rw [SortOn.mem_sort, mem_offered]
    constructor
    · rintro ⟨row, member, held⟩
      exact ⟨row, same.mem_iff.mp member, held⟩
    · rintro ⟨row, member, held⟩
      exact ⟨row, same.mem_iff.mpr member, held⟩

private theorem separates_keys_iff : SortOn.Separates printed (rows.filterMap (offered minChannelsOut preferredRates)) ↔
    ∀ first ∈ rows, ∀ second ∈ rows, Offers minChannelsOut preferredRates first →
      Offers minChannelsOut preferredRates second → printed (siteKey first) = printed (siteKey second) →
      siteKey first = siteKey second := by
  simp only [SortOn.Separates, mem_offered]
  constructor
  · intro separates first member second other fits fitsOther
    exact separates _ ⟨first, member, fits, rfl⟩ _ ⟨second, other, fitsOther, rfl⟩
  · rintro apart _ ⟨first, member, fits, rfl⟩ _ ⟨second, other, fitsOther, rfl⟩
    exact apart first member second other fits fitsOther

omit minChannelsOut preferredRates in
private theorem separates_records_iff :
    SortOn.Separates printedId (rows.filterMap fun row => some (ProviderAudioSites.siteRecord row)) ↔
      ∀ first ∈ rows, ∀ second ∈ rows,
        printed (AudioSite.card first.site).key = printed (AudioSite.card second.site).key →
        ProviderAudioSites.siteRecord first = ProviderAudioSites.siteRecord second := by
  rw [List.filterMap_eq_map']
  simp only [SortOn.Separates, List.forall_mem_map]
  exact .rfl

private theorem canonical_iff {ω : Type} (world : ω) (distinct : (rows.map siteKey).Nodup) :
    Canonical world rows minChannelsOut preferredRates ↔ PrintsApart rows minChannelsOut preferredRates := by
  have listing := (forall_walks_iff distinct fun walk other =>
    SortOn.sort printed (walk.filterMap (offered minChannelsOut preferredRates)) =
      SortOn.sort printed (other.filterMap (offered minChannelsOut preferredRates))).trans
    ((SortOn.sort_filterMap_eq_iff printed _ rows).trans (separates_keys_iff minChannelsOut preferredRates))
  have catalog := (forall_walks_iff distinct fun walk other =>
    SortOn.sort printedId (walk.filterMap fun row => some (ProviderAudioSites.siteRecord row)) =
      SortOn.sort printedId (other.filterMap fun row => some (ProviderAudioSites.siteRecord row))).trans
    ((SortOn.sort_filterMap_eq_iff printedId _ rows).trans separates_records_iff)
  constructor
  · intro canonical
    constructor
    · apply listing.mp
      intro order again permuted permutedAgain walk other
      rw [← sitesByCapability_eq, ← sitesByCapability_eq]
      exact (canonical order again permuted permutedAgain walk other).1
    · apply catalog.mp
      intro order again permuted permutedAgain walk other
      rw [← records_eq, ← records_eq]
      have enumerated := (canonical order again permuted permutedAgain walk other).2 .new
      rw [enumerate_new, enumerate_new] at enumerated
      exact Except.ok.inj (Prod.mk.inj enumerated).1
  · intro apart order again permuted permutedAgain walk other
    have sameKeys := listing.mpr apart.keys order again permuted permutedAgain walk other
    have sameRecords := catalog.mpr apart.cards order again permuted permutedAgain walk other
    rw [← sitesByCapability_eq, ← sitesByCapability_eq] at sameKeys
    rw [← records_eq, ← records_eq] at sameRecords
    have sameSites : ProviderAudioSites.fromRegistered walk = ProviderAudioSites.fromRegistered other :=
      congrArg ProviderAudioSites.mk sameRecords
    refine ⟨sameKeys, fun catalog => ?_⟩
    unfold DeviceCatalog.registerRegisteredSites
    rw [sameSites]

/-- The listings are one function of the registered sites exactly where the prints of the
sorted symbols tell the sites apart. -/
theorem router_listings_canonical {ω : Type} (world : ω) (rows : List (RegisteredAudioSite Site))
    (distinct : (rows.map siteKey).Nodup) :
    Canonical world rows minChannelsOut preferredRates ∧ ListsOffers rows minChannelsOut preferredRates ↔
      PrintsApart rows minChannelsOut preferredRates := by
  rw [canonical_iff minChannelsOut preferredRates world distinct]
  exact and_iff_left (listsOffers minChannelsOut preferredRates distinct)

end Canonical

section Clash

def plainRow : RegisteredAudioSite ModeledAudioSite := ⟨.new "lan", ⟨.modeled (.new "audio/site/x") "Plain"⟩⟩

def qualifiedRow : RegisteredAudioSite ModeledAudioSite :=
  ⟨.new "lan", ⟨.modeled ⟨.qualified "audio/site" "x"⟩ "Qualified"⟩⟩

/-- A site behind hardware, of another owner. -/
def stageRow : RegisteredAudioSite ModeledAudioSite :=
  ⟨.new "desk", ⟨{ AudioDeviceCard.modeled ⟨.qualified "audio/site" "stage"⟩ "Stage" with hardwareRequired := true }⟩⟩

/-- A site with a single output. -/
def voiceRow : RegisteredAudioSite ModeledAudioSite :=
  ⟨.new "lan", ⟨{ AudioDeviceCard.modeled (.new "audio/site/voice") "Voice" with channelsOut := 1 }⟩⟩

def stageRows : List (RegisteredAudioSite ModeledAudioSite) := [stageRow, voiceRow, qualifiedRow]

theorem stage_listings_canonical : Canonical () stageRows 2 [48000] ∧ ListsOffers stageRows 2 [48000] := by
  apply (router_listings_canonical 2 [48000] () stageRows (by decide)).mpr
  have keys : ∀ first ∈ stageRows, ∀ second ∈ stageRows,
      printed (siteKey first) = printed (siteKey second) → siteKey first = siteKey second := by decide
  have cards : ∀ first ∈ stageRows, ∀ second ∈ stageRows,
      printed (AudioSite.card first.site).key = printed (AudioSite.card second.site).key →
        ProviderAudioSites.siteRecord first = ProviderAudioSites.siteRecord second := by decide
  exact ⟨fun first member second other _ _ => keys first member second other, cards⟩

/-- Two keys that print alike are listed in the order of the map. -/
theorem clashing_sites_listed :
    ([plainRow, qualifiedRow].map siteKey).Nodup ∧ ¬ Canonical () [plainRow, qualifiedRow] 2 [48000] := by
  have distinct : ([plainRow, qualifiedRow].map siteKey).Nodup := by decide
  refine ⟨distinct, ?_⟩
  rw [canonical_iff 2 [48000] () distinct]
  intro apart
  have alike : printed (siteKey plainRow) = printed (siteKey qualifiedRow) := by decide
  have one := apart.keys plainRow (by simp) qualifiedRow (by simp) ⟨by decide, 48000, by decide, by decide⟩
    ⟨by decide, 48000, by decide, by decide⟩ alike
  exact absurd one (by decide)

end Clash

end StreamHost.Proofs.RouterListings
