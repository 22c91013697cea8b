import StreamHost.Catalog

/-! The backend candidates of a catalog: the transports of the hardware rows in order of
first appearance, and when the modeled fallback comes after them. -/

namespace StreamHost.Proofs.BackendNames
open DeviceCatalog

/-- The names are those of the list, each once, in the order in which it first shows them. -/
structure FirstSeen (shown names : List String) : Prop where
  nodup : names.Nodup
  mem_iff : ∀ name, name ∈ names ↔ name ∈ shown
  ordered : names.Pairwise fun first second => shown.idxOf first < shown.idxOf second

private theorem firstSeen_nil : FirstSeen [] [] := ⟨.nil, fun _ => .rfl, .nil⟩

private theorem pushUnique_mem {names : List String} {name : String} (seen : name ∈ names) : pushUnique names name = names := by
  apply if_pos
  exact List.any_eq_true.mpr ⟨name, seen, decide_eq_true rfl⟩

private theorem pushUnique_fresh {names : List String} {name : String} (fresh : name ∉ names) :
    pushUnique names name = names ++ [name] := by
  apply if_neg
  intro seen
  obtain ⟨other, member, same⟩ := List.any_eq_true.mp seen
  apply fresh
  rwa [← of_decide_eq_true same]

theorem FirstSeen.push {shown names : List String} (seen : FirstSeen shown names) (name : String) :
    FirstSeen (shown ++ [name]) (pushUnique names name) := by
  have kept : ∀ other ∈ names, (shown ++ [name]).idxOf other = shown.idxOf other := fun other member =>
    List.idxOf_append_of_mem ((seen.mem_iff other).mp member)
  have ordered : names.Pairwise fun first second => (shown ++ [name]).idxOf first < (shown ++ [name]).idxOf second := by
    apply seen.ordered.imp_of_mem
    intro first second member other earlier
    rwa [kept first member, kept second other]
  by_cases known : name ∈ names
  · rw [pushUnique_mem known]
    refine ⟨seen.nodup, fun other => ?_, ordered⟩
    rw [List.mem_append, List.mem_singleton, seen.mem_iff]
    constructor
    · exact .inl
    · rintro (member | rfl)
      · exact member
      · exact (seen.mem_iff other).mp known
  · rw [pushUnique_fresh known]
    have absent : name ∉ shown := fun member => known ((seen.mem_iff name).mpr member)
    constructor
    · rw [List.nodup_append]
      refine ⟨seen.nodup, List.nodup_singleton name, ?_⟩
      intro other member last single same
      apply known
      rwa [← List.mem_singleton.mp single, ← same]
    · intro other
      rw [List.mem_append, List.mem_append, seen.mem_iff]
    · rw [List.pairwise_append]
      refine ⟨ordered, List.pairwise_singleton _ _, ?_⟩
      intro other member last single
      rw [List.mem_singleton.mp single, kept other member, List.idxOf_append_of_notMem absent]
      have inside := List.idxOf_lt_length_of_mem ((seen.mem_iff other).mp member)
      omega

section Scan
variable (kind : DeviceKind)

def transport (record : DeviceRecord) : Option String :=
  match record.placement with
  | .modeled => none
  | .hardware transport => some transport.name

/-- The transport names of the hardware rows of the kind, in row order. -/
def transports (rows : List DeviceRecord) : List String := (rows.filter (·.kind = kind)).filterMap transport

def HasModeled (rows : List DeviceRecord) : Prop := ∃ row ∈ rows, row.kind = kind ∧ row.placement = .modeled

def HasHardware (rows : List DeviceRecord) : Prop :=
  ∃ row ∈ rows, row.kind = kind ∧ ∃ transport, row.placement = .hardware transport

/-- A hardware row of the kind whose transport is called like the fallback. -/
def NamesFallback (rows : List DeviceRecord) : Prop :=
  ∃ row ∈ rows, row.kind = kind ∧ ∃ transport, row.placement = .hardware transport ∧ transport.name = "modeled"

/-- What the loop holds after some rows: their names first seen, and whether one was modeled. -/
structure Scanned (rows : List DeviceRecord) (state : List String × Bool) : Prop where
  names : FirstSeen (rows.filterMap transport) state.1
  modeled : state.2 = true ↔ ∃ row ∈ rows, row.placement = .modeled

theorem Scanned.step {rows : List DeviceRecord} {state : List String × Bool} (scanned : Scanned rows state)
    (row : DeviceRecord) : Scanned (rows ++ [row]) (noteBackend state row) := by
  obtain ⟨names, hasModeled⟩ := state
  cases placed : row.placement with
  | modeled =>
    have noted : noteBackend (names, hasModeled) row = (names, true) := by rw [noteBackend, placed]
    have silent : transport row = none := by rw [transport, placed]
    rw [noted]
    constructor
    · rw [List.filterMap_append, List.filterMap_cons_none silent, List.filterMap_nil, List.append_nil]
      exact scanned.names
    · exact ⟨fun _ => ⟨row, by simp, placed⟩, fun _ => rfl⟩
  | hardware owner =>
    have noted : noteBackend (names, hasModeled) row = (pushUnique names owner.name, hasModeled) := by
      rw [noteBackend, placed]
    have named : transport row = some owner.name := by rw [transport, placed]
    rw [noted]
    constructor
    · rw [List.filterMap_append, List.filterMap_cons_some named, List.filterMap_nil]
      exact scanned.names.push owner.name
    · rw [scanned.modeled]
      constructor
      · rintro ⟨other, member, fallback⟩
        exact ⟨other, List.mem_append_left _ member, fallback⟩
      · rintro ⟨other, member, fallback⟩
        rcases List.mem_append.mp member with earlier | last
        · exact ⟨other, earlier, fallback⟩
        · rw [List.mem_singleton.mp last, placed] at fallback
          cases fallback

private theorem scanned_foldl (rows : List DeviceRecord) : Scanned rows (rows.foldl noteBackend ([], false)) := by
  induction rows using List.reverseRecOn with
  | nil => exact ⟨firstSeen_nil, by simp⟩
  | append_singleton rows row ih =>
    rw [List.foldl_append]
    exact ih.step row

private theorem mem_transports (rows : List DeviceRecord) (name : String) : name ∈ transports kind rows ↔
    ∃ row ∈ rows, row.kind = kind ∧ ∃ owner, row.placement = .hardware owner ∧ owner.name = name := by
  simp only [transports, List.mem_filterMap, List.mem_filter, decide_eq_true_eq]
  apply exists_congr
  intro row
  rw [and_assoc]
  apply and_congr_right
  intro _
  apply and_congr_right
  intro _
  cases placed : row.placement with
  | modeled => simp [transport, placed]
  | hardware owner => simp [transport, placed]

private theorem hardware_names (rows : List DeviceRecord) :
    FirstSeen (transports kind rows) (backendNamesOf kind false rows) :=
  (scanned_foldl (rows.filter (·.kind = kind))).names

private theorem backendNamesOf_true (rows : List DeviceRecord) :
    (HasModeled kind rows ∨ ¬ HasHardware kind rows →
      backendNamesOf kind true rows = pushUnique (backendNamesOf kind false rows) "modeled") ∧
    (¬ (HasModeled kind rows ∨ ¬ HasHardware kind rows) →
      backendNamesOf kind true rows = backendNamesOf kind false rows) := by
  have scanned := scanned_foldl (rows.filter (·.kind = kind))
  unfold backendNamesOf
  generalize (rows.filter (·.kind = kind)).foldl noteBackend ([], false) = state at scanned ⊢
  obtain ⟨names, hasModeled⟩ := state
  have found : hasModeled = true ↔ HasModeled kind rows := by
    apply scanned.modeled.trans
    simp only [HasModeled, List.mem_filter, decide_eq_true_eq, and_assoc]
  have bare : names.isEmpty = true ↔ ¬ HasHardware kind rows := by
    have shown name : name ∈ names ↔
        ∃ row ∈ rows, row.kind = kind ∧ ∃ owner, row.placement = .hardware owner ∧ owner.name = name :=
      (scanned.names.mem_iff name).trans (mem_transports kind rows name)
    rw [List.isEmpty_iff, List.eq_nil_iff_forall_not_mem]
    constructor
    · intro none hardware
      obtain ⟨row, member, same, owner, placed⟩ := hardware
      exact none owner.name ((shown _).mpr ⟨row, member, same, owner, placed, rfl⟩)
    · intro none name member
      obtain ⟨row, stored, same, owner, placed, _⟩ := (shown name).mp member
      exact none ⟨row, stored, same, owner, placed⟩
  have guarded : (true && (hasModeled || names.isEmpty)) = true ↔ HasModeled kind rows ∨ ¬ HasHardware kind rows := by
    rw [Bool.true_and, Bool.or_eq_true, found, bare]
  constructor
  · intro fallback
    exact if_pos (guarded.mpr fallback)
  · intro settled
    exact if_neg (fun fallback => settled (guarded.mp fallback))

/-- The hardware list and the full list are as the fallback rule says, the fallback last and once. -/
structure Candidates (rows : List DeviceRecord) (hardware full : List String) : Prop where
  firstSeen : FirstSeen (transports kind rows) hardware
  fallback : HasModeled kind rows ∨ ¬ HasHardware kind rows →
    full = hardware ++ ["modeled"] ∧ full.getLast? = some "modeled" ∧ full.count "modeled" = 1
  settled : ¬ (HasModeled kind rows ∨ ¬ HasHardware kind rows) → full = hardware

private theorem candidates_iff (rows : List DeviceRecord) :
    Candidates kind rows (backendNamesOf kind false rows) (backendNamesOf kind true rows) ↔
      ¬ (HasModeled kind rows ∧ NamesFallback kind rows) := by
  have hardware := hardware_names kind rows
  have clash : "modeled" ∈ backendNamesOf kind false rows ↔ NamesFallback kind rows :=
    (hardware.mem_iff "modeled").trans (mem_transports kind rows "modeled")
  constructor
  · rintro candidates ⟨modeled, named⟩
    obtain ⟨appended, _⟩ := candidates.fallback (.inl modeled)
    rw [(backendNamesOf_true kind rows).1 (.inl modeled), pushUnique_mem (clash.mpr named)] at appended
    have lengths := congrArg List.length appended
    rw [List.length_append, List.length_singleton] at lengths
    omega
  · intro apart
    refine ⟨hardware, fun fallback => ?_, (backendNamesOf_true kind rows).2⟩
    have fresh : "modeled" ∉ backendNamesOf kind false rows := by
      intro member
      have named := clash.mp member
      rcases fallback with modeled | bare
      · exact apart ⟨modeled, named⟩
      · obtain ⟨row, stored, same, owner, placed, _⟩ := named
        exact bare ⟨row, stored, same, owner, placed⟩
    rw [(backendNamesOf_true kind rows).1 fallback, pushUnique_fresh fresh]
    refine ⟨rfl, List.getLast?_concat, ?_⟩
    rw [List.count_append, List.count_eq_zero_of_not_mem fresh, List.count_singleton_self]

end Scan

section Catalog
variable {ω : Type}

/-- The public candidate list of a kind. -/
def candidateNames : DeviceKind → DeviceCatalog ω → ω → Result (List String) × ω
  | .audio => audioBackendNames
  | .midi => midiBackendNames

/-- The public hardware list of a kind. -/
def hardwareCandidateNames : DeviceKind → DeviceCatalog ω → ω → Result (List String) × ω
  | .audio => audioHardwareBackendNames
  | .midi => midiHardwareBackendNames

private theorem backendNames_enumerated {catalog : DeviceCatalog ω} {world after : ω} {rows : List DeviceRecord}
    (enumerated : catalog.enumerate world = (.ok rows, after)) (kind : DeviceKind) (includeModeledFallback : Bool) :
    catalog.backendNames kind includeModeledFallback world =
      (.ok (backendNamesOf kind includeModeledFallback rows), after) := by
  rw [backendNames, enumerated]
  rfl

/-- The candidate lists are as the fallback rule says exactly where no hardware transport
takes the fallback's name beside a modeled row. -/
theorem backend_candidates_iff (catalog : DeviceCatalog ω) (world after : ω) (rows : List DeviceRecord)
    (enumerated : catalog.enumerate world = (.ok rows, after)) (kind : DeviceKind) :
    (∃ hardware full, hardwareCandidateNames kind catalog world = (.ok hardware, after) ∧
      candidateNames kind catalog world = (.ok full, after) ∧ Candidates kind rows hardware full) ↔
    ¬ (HasModeled kind rows ∧ NamesFallback kind rows) := by
  have hardwareList : hardwareCandidateNames kind catalog world = (.ok (backendNamesOf kind false rows), after) := by
    cases kind with
    | audio => exact backendNames_enumerated enumerated .audio false
    | midi => exact backendNames_enumerated enumerated .midi false
  have fullList : candidateNames kind catalog world = (.ok (backendNamesOf kind true rows), after) := by
    cases kind with
    | audio => exact backendNames_enumerated enumerated .audio true
    | midi => exact backendNames_enumerated enumerated .midi true
  rw [← candidates_iff kind rows]
  constructor
  · rintro ⟨hardware, full, listed, listedFull, candidates⟩
    obtain rfl := Except.ok.inj (Prod.mk.inj (hardwareList.symm.trans listed)).1
    obtain rfl := Except.ok.inj (Prod.mk.inj (fullList.symm.trans listedFull)).1
    exact candidates
  · intro candidates
    exact ⟨_, _, hardwareList, fullList, candidates⟩

end Catalog

section Clash

def wired (transport : String) : DeviceRecord := ⟨.new transport, "Wired MIDI", .midi, .input, .hardware (.new transport)⟩

/-- The modeled ports, and hardware ports of the given transports. -/
def wiredCatalog (transports : List String) : DeviceCatalog Unit :=
  DeviceCatalog.defaultModeled.register (ModeledMidiProvider.mk (transports.map wired)).provider

def wiredRows (transports : List String) : List DeviceRecord :=
  ModeledMidiProvider.default.ports ++ (ModeledAudioProvider.default.records ++ (transports.map wired ++ []))

theorem backend_candidates_alsa : ∃ hardware full,
    hardwareCandidateNames .midi (wiredCatalog ["alsa"]) () = (.ok hardware, ()) ∧
      candidateNames .midi (wiredCatalog ["alsa"]) () = (.ok full, ()) ∧
      Candidates .midi (wiredRows ["alsa"]) hardware full := by
  apply (backend_candidates_iff (wiredCatalog ["alsa"]) () () (wiredRows ["alsa"]) rfl .midi).mpr
  intro clash
  have named : "modeled" ∈ transports .midi (wiredRows ["alsa"]) := (mem_transports _ _ _).mpr clash.2
  exact absurd named (by decide)

/-- A transport called like the fallback keeps the fallback from its place at the end. -/
theorem fallback_before_hardware :
    candidateNames .midi (wiredCatalog ["modeled", "alsa"]) () = (.ok ["modeled", "alsa"], ()) ∧
      HasModeled .midi (wiredRows ["modeled", "alsa"]) ∧
      ¬ ∃ hardware full, hardwareCandidateNames .midi (wiredCatalog ["modeled", "alsa"]) () = (.ok hardware, ()) ∧
        candidateNames .midi (wiredCatalog ["modeled", "alsa"]) () = (.ok full, ()) ∧
        Candidates .midi (wiredRows ["modeled", "alsa"]) hardware full := by
  have enumerated : (wiredCatalog ["modeled", "alsa"]).enumerate () = (.ok (wiredRows ["modeled", "alsa"]), ()) := rfl
  have modeled : HasModeled .midi (wiredRows ["modeled", "alsa"]) :=
    ⟨.modeledMidiInput "midi/model/in-0" "Modeled MIDI Input 0", List.mem_cons_self, rfl, rfl⟩
  have full : candidateNames .midi (wiredCatalog ["modeled", "alsa"]) () = (.ok ["modeled", "alsa"], ()) :=
    (backendNames_enumerated enumerated .midi true).trans rfl
  refine ⟨full, modeled, ?_⟩
  rintro ⟨hardware, names, _, listed, candidates⟩
  obtain rfl := Except.ok.inj (Prod.mk.inj (full.symm.trans listed)).1
  have last := (candidates.fallback (.inl modeled)).2.1
  exact absurd last (by decide)

end Clash

end StreamHost.Proofs.BackendNames
