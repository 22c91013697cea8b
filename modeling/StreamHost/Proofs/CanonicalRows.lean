import StreamHost.Catalog
import StreamHost.Lib.SortOn

/-! The audio rows of the loaded libraries as a set: which symbols have one, that none
has two, and that nothing else about the libraries shows. -/

namespace StreamHost.Proofs.CanonicalRows

/-- Some library exports the symbol as a site that is not invalid, in the audio namespace. -/
def Exports (registry : LibRegistry) (symbol : Symbol) : Prop :=
  ∃ lib ∈ registry.libs, ∃ exported ∈ lib, exported.kind = .site ∧ exported.state ≠ .invalid ∧
    symbol.ns = some "audio/site" ∧ exported.symbol = symbol

def siteRow (symbol : Symbol) : DeviceRecord where
  id := symbol
  displayName := s!"{symbol.name} audio site"
  kind := .audio
  direction := .duplex
  placement := .hardware symbol

private theorem registryAudioSiteRecord_eq_some (exported : ExportRecord) (row : DeviceRecord) :
    registryAudioSiteRecord exported = some row ↔
      exported.kind = .site ∧ exported.state ≠ .invalid ∧ exported.symbol.ns = some "audio/site" ∧
        siteRow exported.symbol = row := by
  unfold registryAudioSiteRecord
  by_cases site : exported.kind = .site
  · by_cases audio : exported.symbol.ns = some "audio/site"
    · by_cases invalid : exported.state = .invalid
      · simp [site, audio, invalid]
      · simp [site, audio, invalid, siteRow]
    · simp [site, audio]
  · simp [site]

def exportedRows (registry : LibRegistry) : List DeviceRecord := registry.libs.flatten.filterMap registryAudioSiteRecord

private theorem mem_exportedRows (registry : LibRegistry) (row : DeviceRecord) :
    row ∈ exportedRows registry ↔ ∃ symbol, Exports registry symbol ∧ row = siteRow symbol := by
  simp only [exportedRows, List.mem_filterMap, List.mem_flatten, registryAudioSiteRecord_eq_some]
  constructor
  · rintro ⟨exported, ⟨lib, loaded, member⟩, site, valid, audio, rfl⟩
    exact ⟨exported.symbol, ⟨lib, loaded, exported, member, site, valid, audio, rfl⟩, rfl⟩
  · rintro ⟨symbol, ⟨lib, loaded, exported, member, site, valid, audio, rfl⟩, rfl⟩
    exact ⟨exported, ⟨lib, loaded, member⟩, site, valid, audio, rfl⟩

/-- Within one namespace the print determines the symbol. -/
theorem print_inj {first second : Symbol} (sameNs : first.ns = second.ns)
    (same : first.asQualifiedStr = second.asQualifiedStr) : first = second := by
  obtain ⟨ns, name⟩ := first
  obtain ⟨otherNs, other⟩ := second
  cases sameNs
  cases ns with
  | none => exact congrArg _ same
  | some ns =>
    have names : name.toList = other.toList := by
      have texts := congrArg String.toList same
      simpa [Symbol.asQualifiedStr] using texts
    rw [String.toList_injective names]

private theorem exportedRows_separate (registry : LibRegistry) :
    SortOn.Separates (fun row : DeviceRecord => row.id.asQualifiedStr) (exportedRows registry) := by
  intro first member second other alike
  obtain ⟨symbol, ⟨_, _, _, _, _, _, audio, _⟩, rfl⟩ := (mem_exportedRows registry first).mp member
  obtain ⟨twin, ⟨_, _, _, _, _, _, audioTwin, _⟩, rfl⟩ := (mem_exportedRows registry second).mp other
  exact congrArg siteRow (print_inj (audio.trans audioTwin.symm) alike)

theorem records_eq (registry : LibRegistry) : (RegistryAudioDevices.fromRegistry registry).records =
    SortOn.distinct DeviceRecord.id Symbol.asQualifiedStr (exportedRows registry) := rfl

private theorem mem_records (registry : LibRegistry) (row : DeviceRecord) :
    row ∈ (RegistryAudioDevices.fromRegistry registry).records ↔
      ∃ symbol, Exports registry symbol ∧ row = siteRow symbol := by
  rw [records_eq, SortOn.mem_distinct _ _ (exportedRows_separate registry), mem_exportedRows]

private theorem records_ids_nodup (registry : LibRegistry) :
    ((RegistryAudioDevices.fromRegistry registry).records.map DeviceRecord.id).Nodup :=
  SortOn.distinct_nodup _ _ (exportedRows_separate registry)

private theorem fromRegistry_eq {registry other : LibRegistry} (same : ∀ symbol, Exports other symbol ↔ Exports registry symbol) :
    RegistryAudioDevices.fromRegistry other = RegistryAudioDevices.fromRegistry registry := by
  have rows : ∀ row, row ∈ exportedRows other ↔ row ∈ exportedRows registry := by
    intro row
    rw [mem_exportedRows, mem_exportedRows]
    exact exists_congr fun symbol => and_congr_left' (same symbol)
  exact congrArg RegistryAudioDevices.mk (SortOn.distinct_eq_of_mem_iff _ _ (exportedRows_separate registry) rows)

/-- The same libraries in another order, each with its exports in another order. -/
def Rearranged (registry other : LibRegistry) : Prop :=
  ∃ libs : List (List ExportRecord), libs.Perm registry.libs ∧ List.Forall₂ List.Perm other.libs libs

private theorem Rearranged.flatten_perm {registry other : LibRegistry} (rearranged : Rearranged registry other) :
    other.libs.flatten.Perm registry.libs.flatten := by
  obtain ⟨libs, reordered, permuted⟩ := rearranged
  apply List.Perm.trans _ reordered.flatten
  generalize other.libs = others at permuted ⊢
  clear reordered
  induction permuted with
  | nil => exact .refl _
  | cons first _ ih => exact first.append ih

private theorem exports_iff (registry : LibRegistry) (symbol : Symbol) : Exports registry symbol ↔
    ∃ exported ∈ registry.libs.flatten, exported.kind = .site ∧ exported.state ≠ .invalid ∧
      symbol.ns = some "audio/site" ∧ exported.symbol = symbol := by
  simp only [Exports, List.mem_flatten]
  constructor
  · rintro ⟨lib, loaded, exported, member, held⟩
    exact ⟨exported, ⟨lib, loaded, member⟩, held⟩
  · rintro ⟨exported, ⟨lib, loaded, member⟩, held⟩
    exact ⟨lib, loaded, exported, member, held⟩

theorem Rearranged.exports {registry other : LibRegistry} (rearranged : Rearranged registry other) (symbol : Symbol) :
    Exports other symbol ↔ Exports registry symbol := by
  rw [exports_iff, exports_iff]
  exact exists_congr fun exported => and_congr_left' rearranged.flatten_perm.mem_iff

/-- The rows are a function of the set of exported symbols: one row for each and no other,
whatever the order of the libraries and of their exports and however often a symbol occurs. -/
theorem registry_rows_canonical (registry : LibRegistry) :
    ((RegistryAudioDevices.fromRegistry registry).records.map DeviceRecord.id).Nodup ∧
    (∀ row, row ∈ (RegistryAudioDevices.fromRegistry registry).records ↔
      ∃ symbol, Exports registry symbol ∧ row = siteRow symbol) ∧
    (∀ other, Rearranged registry other →
      RegistryAudioDevices.fromRegistry other = RegistryAudioDevices.fromRegistry registry) ∧
    ∀ other, (∀ symbol, Exports other symbol ↔ Exports registry symbol) →
      RegistryAudioDevices.fromRegistry other = RegistryAudioDevices.fromRegistry registry :=
  ⟨records_ids_nodup registry, mem_records registry, fun _ rearranged => fromRegistry_eq rearranged.exports,
    fun _ same => fromRegistry_eq same⟩

end StreamHost.Proofs.CanonicalRows
