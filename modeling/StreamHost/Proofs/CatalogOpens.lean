import StreamHost.Catalog
import StreamHost.Proofs.PlanEnforcement

/-! Checked opens through the device catalog. The row is searched in all rows, the
provider by its rows, and the site by the provider in its rows again: all three
searches end at the first row of the id. -/

namespace StreamHost.Proofs.CatalogOpens
open DeviceCatalog

variable {κ ω : Type}

/-- A provider that always lists these rows, and opens the first row of an id. -/
structure Serves (provider : DeviceProvider ω) (records : List DeviceRecord) : Prop where
  enumerate : ∀ world, provider.enumerate world = (.ok records, world)
  openSite : ∀ {id world site}, (provider.openSite id world).1 = .ok site →
    records.find? (·.id = id) = some site.deviceRecord

/-- A catalog after any registrations of these providers, whatever rows they hold. -/
inductive Built : DeviceCatalog ω → Prop where
  | new : Built .new
  | midi {catalog : DeviceCatalog ω} (built : Built catalog) (midi : ModeledMidiProvider) :
      Built (catalog.register midi.provider)
  | audio {catalog : DeviceCatalog ω} (built : Built catalog) (audio : ModeledAudioProvider) :
      Built (catalog.register audio.provider)
  | providerSites {catalog : DeviceCatalog ω} (built : Built catalog) (sites : ProviderAudioSites) :
      Built (catalog.register sites.provider)
  | registryDevices {catalog : DeviceCatalog ω} (built : Built catalog) (devices : RegistryAudioDevices) :
      Built (catalog.register devices.provider)

theorem Built.defaultModeled : Built (.defaultModeled : DeviceCatalog ω) := .audio (.midi .new _) _

theorem Built.registerRegisteredSites {Site : Type} [AudioSite Site] {catalog : DeviceCatalog ω} (built : Built catalog)
    {router : AudioRouter Site} (walk : router.RegisteredSites) : Built (catalog.registerRegisteredSites walk) := by
  unfold DeviceCatalog.registerRegisteredSites
  split
  · exact built
  · exact .providerSites built _

theorem Built.registerProviderSites {Site : Type} [AudioSite Site] {catalog : DeviceCatalog ω} (built : Built catalog)
    (router : AudioRouter Site) : Built (catalog.registerProviderSites router) :=
  built.registerRegisteredSites router.byKey

theorem Built.registerRegistryAudioDevices {catalog : DeviceCatalog ω} (built : Built catalog) (registry : LibRegistry) :
    Built (catalog.registerRegistryAudioDevices registry) := by
  unfold DeviceCatalog.registerRegistryAudioDevices
  split
  · exact built
  · exact .registryDevices built _

private theorem lookup_ok {provider : String} {records : List DeviceRecord} {id : Symbol} {record : DeviceRecord}
    (found : DeviceRecord.lookup provider records id = .ok record) : records.find? (·.id = id) = some record := by
  unfold DeviceRecord.lookup at found
  split at found
  · rename_i first same
    cases found
    exact same
  · cases found

/-- All four kinds of providers look the id up in their rows and wrap the row as a site of its own. -/
theorem serves_of_lookup {provider : DeviceProvider ω} {name : String} {records : List DeviceRecord}
    (site : DeviceRecord → StreamEvalSite) (enumerate : ∀ world, provider.enumerate world = (.ok records, world))
    (opens : ∀ id world, provider.openSite id world = ((DeviceRecord.lookup name records id).map site, world))
    (own : ∀ record, (site record).deviceRecord = record) : Serves provider records := by
  refine ⟨enumerate, ?_⟩
  intro id world opened accepted
  rw [opens] at accepted
  cases found : DeviceRecord.lookup name records id with
  | error error =>
    rw [found] at accepted
    cases accepted
  | ok record =>
    rw [found] at accepted
    cases accepted
    rw [own]
    exact lookup_ok found

def Serving (providers : List (DeviceProvider ω)) : Prop :=
  ∀ provider ∈ providers, ∃ records, Serves provider records

theorem Serving.register {catalog : DeviceCatalog ω} {provider : DeviceProvider ω} {records : List DeviceRecord}
    (serving : Serving catalog.providers) (serves : Serves provider records) :
    Serving (catalog.register provider).providers := by
  intro other member
  rcases List.mem_append.mp member with member | member
  · exact serving other member
  · rw [List.mem_singleton.mp member]
    exact ⟨records, serves⟩

theorem Built.serving {catalog : DeviceCatalog ω} (built : Built catalog) : Serving catalog.providers := by
  induction built with
  | new => exact nofun
  | midi _ midi ih =>
    exact ih.register (serves_of_lookup modeledMidiEvalSite (fun _ => rfl) (fun _ _ => rfl) fun _ => rfl)
  | audio _ audio ih =>
    exact ih.register (serves_of_lookup modeledAudioEvalSite (fun _ => rfl) (fun _ _ => rfl) fun _ => rfl)
  | providerSites _ sites ih =>
    exact ih.register (serves_of_lookup providerAudioSite (fun _ => rfl) (fun _ _ => rfl) fun _ => rfl)
  | registryDevices _ devices ih =>
    exact ih.register (serves_of_lookup providerAudioSite (fun _ => rfl) (fun _ _ => rfl) fun _ => rfl)

/-- All rows are the same in every world. -/
theorem enumerateAll_rows {providers : List (DeviceProvider ω)} (serving : Serving providers) :
    ∃ records, ∀ world, enumerateAll providers world = (.ok records, world) := by
  induction providers with
  | nil => exact ⟨[], fun _ => rfl⟩
  | cons provider rest ih =>
    obtain ⟨⟨records, served⟩, later⟩ := List.forall_mem_cons.mp serving
    obtain ⟨others, same⟩ := ih later
    refine ⟨records ++ others, fun world => ?_⟩
    rw [enumerateAll, served.enumerate]
    simp only [same]
    rfl

/-- The provider's own search finds the row that the search in all rows finds. -/
theorem openFirst_row {providers : List (DeviceProvider ω)} (serving : Serving providers) {id : Symbol} {world : ω}
    {site : StreamEvalSite} {records : List DeviceRecord} (rows : (enumerateAll providers world).1 = .ok records)
    (opened : (openFirst providers id world).1 = .ok site) : records.find? (·.id = id) = some site.deviceRecord := by
  induction providers generalizing records with
  | nil => cases opened
  | cons provider rest ih =>
    obtain ⟨⟨own, served⟩, later⟩ := List.forall_mem_cons.mp serving
    obtain ⟨others, same⟩ := enumerateAll_rows later
    simp only [enumerateAll, openFirst, served.enumerate, same] at rows opened
    cases rows
    rw [List.find?_append]
    split at opened
    · rw [served.openSite opened]
      rfl
    · rename_i absent
      have missing : own.find? (·.id = id) = none := by
        rw [List.find?_eq_none]
        intro record member here
        exact absent (List.any_eq_true.mpr ⟨record, member, here⟩)
      rw [missing, Option.none_or]
      exact ih later (congrArg Prod.fst (same world)) opened

private theorem enumerateAll_logged (providers : List (DeviceProvider ω)) (world : ω) (log : List Symbol) :
    enumerateAll (providers.map .logged) (world, log) = (enumerateAll providers world).map id (·, log) := by
  induction providers generalizing world with
  | nil => rfl
  | cons provider rest ih =>
    rw [List.map_cons, enumerateAll, enumerateAll]
    rcases found : provider.enumerate world with ⟨error | records, later⟩
    · simp only [DeviceProvider.logged, found]
      rfl
    · simp only [DeviceProvider.logged, found, Prod.map, id_eq, ih]

section Checked
variable {context : HostContext κ} {held : κ → CapabilityName → Prop} {ledger : κ → List Effect}
  {catalog : DeviceCatalog ω}

/-- The site is of the first row with the id, and the effects on record are those of this row's plan. -/
structure OpensPlanned (ledger : κ → List Effect) (catalog : DeviceCatalog ω) (cx : κ) (id : Symbol) (world : ω)
    (site : StreamEvalSite) (after : κ) : Prop where
  own : site.deviceRecord.id = id
  first : ∃ records, (catalog.enumerate world).1 = .ok records ∧ records.find? (·.id = id) = some site.deviceRecord
  recorded : site.deviceRecord.openPlan.Recorded site.deviceRecord.openPlan.effectKinds (ledger cx) (ledger after)

theorem openChecked_ok (laws : context.Ledgers held ledger) (built : Built catalog) {cx : κ} {id : Symbol} {world : ω}
    {site : StreamEvalSite} (opened : (catalog.openChecked context cx id world).1 = .ok site) :
    OpensPlanned ledger catalog cx id world site (catalog.openChecked context cx id world).2.1 := by
  obtain ⟨records, rows⟩ := enumerateAll_rows built.serving
  have enumerated : catalog.enumerate world = (.ok records, world) := rows world
  simp only [openChecked, enumerated] at opened ⊢
  cases first : records.find? (·.id = id) with
  | none =>
    rw [first] at opened
    cases opened
  | some record =>
    simp only [first] at opened ⊢
    rcases enforced : record.openPlan.enforce context cx with ⟨error | _, after⟩
    · rw [enforced] at opened
      cases opened
    · simp only [enforced] at opened ⊢
      have reached : (openFirst catalog.providers id world).1 = .ok site := opened
      have same := openFirst_row built.serving (congrArg Prod.fst enumerated) reached
      rw [first] at same
      cases same
      obtain ⟨_, recorded⟩ := HostOpenPlan.enforce_ok laws (congrArg Prod.fst enforced)
      rw [enforced] at recorded
      exact ⟨by simpa using List.find?_some first, ⟨records, congrArg Prod.fst enumerated, first⟩, recorded⟩

/-- Without authority nothing is opened or recorded. -/
theorem openChecked_refused (laws : context.Ledgers held ledger) {cx : κ} (missing : ¬ held cx streamHostCapability)
    (id : Symbol) (world : ω) :
    ∃ error last, catalog.logged.openChecked context cx id (world, []) = (.error error, cx, last, []) := by
  have same : catalog.logged.enumerate (world, []) = (catalog.enumerate world).map (fun rows => rows) (·, []) :=
    enumerateAll_logged catalog.providers world []
  rw [openChecked, same]
  rcases catalog.enumerate world with ⟨error | records, later⟩
  · exact ⟨error, later, rfl⟩
  · simp only [Prod.map]
    cases records.find? (·.id = id) with
    | none => exact ⟨noDevice id, later, rfl⟩
    | some record =>
      have refused : ∃ error, record.openPlan.enforce context cx = (.error error, cx) :=
        HostOpenPlan.enforce_denied laws List.mem_cons_self missing
      obtain ⟨error, denied⟩ := refused
      refine ⟨error, later, ?_⟩
      simp only [denied]

/-- Every checked open of a catalog enforces the plan of the row it opens. -/
theorem checked_open_enforces_opened_plan (laws : context.Ledgers held ledger) (built : Built catalog) (cx : κ)
    (id : Symbol) (world : ω) :
    (∀ site, (catalog.openChecked context cx id world).1 = .ok site →
      OpensPlanned ledger catalog cx id world site (catalog.openChecked context cx id world).2.1) ∧
    (¬ held cx streamHostCapability →
      ∃ error last, catalog.logged.openChecked context cx id (world, []) = (.error error, cx, last, [])) :=
  ⟨fun _ opened => openChecked_ok laws built opened, fun missing => openChecked_refused laws missing id world⟩

end Checked

theorem modeled_open_enforces_opened_plan :
    OpensPlanned Prod.snd (.defaultModeled : DeviceCatalog Unit) ([streamHostCapability], []) (.new "midi/model/in-0") ()
      (modeledMidiEvalSite (.modeledMidiInput "midi/model/in-0" "Modeled MIDI Input 0"))
      ([streamHostCapability],
        [(DeviceRecord.modeledMidiInput "midi/model/in-0" "").openPlan.effect 0 streamHostDeviceReadEffectKind]) ∧
    ∃ error last, (DeviceCatalog.defaultModeled : DeviceCatalog Unit).logged.openChecked plainContext ([], [])
      (.new "midi/model/in-0") ((), []) = (.error error, ([], []), last, []) :=
  ⟨(checked_open_enforces_opened_plan plainContext_ledgers .defaultModeled ([streamHostCapability], [])
    (.new "midi/model/in-0") ()).1 _ rfl,
  (checked_open_enforces_opened_plan plainContext_ledgers .defaultModeled ([], []) (.new "midi/model/in-0") ()).2
    (by simp)⟩

end StreamHost.Proofs.CatalogOpens
