import StreamHost.Cards
import StreamHost.Fake
import StreamHost.Lib.Blocks
import StreamHost.RtpMidi
import StreamHost.SimValue

/-! The browse cards of a registry can be read back: they tell which backends it
holds, in the order of their ids, and what each of them found. -/

namespace StreamHost.Proofs.BrowseCards
open Std HostBackendRegistry List

variable {ω ν δ ω' ν' δ' : Type}

/-- What one backend contributes to a listing. -/
structure BackendListing where
  info : HostBackendInfo
  inventory : HostDeviceInventory
deriving DecidableEq, Repr

def listBackends : List (HostBackend ω ν δ) → ω → Result (List BackendListing) × ω
  | [], world => (.ok [], world)
  | backend :: rest, world =>
    match backend.enumerate world with
    | (.error error, world) => (.error error, world)
    | (.ok inventory, world) => (listBackends rest world).map (Except.map (⟨backend.info, inventory⟩ :: ·)) id

/-- The backends in the order of their ids, with what they found. -/
def listing (registry : HostBackendRegistry ω ν δ) (world : ω) : Result (List BackendListing) × ω :=
  listBackends registry.backends.values world

namespace BackendListing
variable (texts : CardTexts)

def card (row : BackendListing) : Expr := row.info.cardExpr texts

def found (row : BackendListing) : List Expr := row.inventory.cardExprs texts

def block (row : BackendListing) : Expr × List Expr := (row.card texts, row.found texts)

end BackendListing

def listingCards (texts : CardTexts) (rows : List BackendListing) : List Expr := Blocks.join (rows.map (·.block texts))

section
variable {texts : CardTexts}

/-- The same device, as far as the stream core's rendering of its media and buffer tells. -/
structure DeviceAlike (texts : CardTexts) (first second : HostDeviceSpec) : Prop where
  id : first.id = second.id
  backend : first.backend = second.backend
  media : texts.media first.media = texts.media second.media
  direction : first.direction = second.direction
  clock : first.clock = second.clock
  buffer : texts.buffer first.buffer = texts.buffer second.buffer

structure PortAlike (texts : CardTexts) (first second : HostPortSpec) : Prop where
  id : first.id = second.id
  device : first.device = second.device
  backend : first.backend = second.backend
  media : texts.media first.media = texts.media second.media
  direction : first.direction = second.direction

structure Alike (texts : CardTexts) (first second : BackendListing) : Prop where
  id : first.info.id = second.info.id
  transport : first.info.transport = second.info.transport
  media : texts.media first.info.media = texts.media second.info.media
  hardwareRequired : first.info.hardwareRequired = second.info.hardwareRequired
  callbacksBounded : first.info.callbacksBounded = second.info.callbacksBounded
  capabilities : first.info.capabilities = second.info.capabilities
  devices : Forall₂ (DeviceAlike texts) first.inventory.devices second.inventory.devices
  ports : Forall₂ (PortAlike texts) first.inventory.ports second.inventory.ports

private theorem capabilitySymbol_injective : Function.Injective HostBackendCapability.symbol := by
  intro first second same
  cases first <;> cases second <;> first | rfl | exact absurd same (by decide)

private theorem directionSymbol_injective : Function.Injective HostDirection.symbol := by
  intro first second same
  cases first <;> cases second <;> first | rfl | exact absurd same (by decide)

private theorem deviceCard_inj {first second : HostDeviceSpec} :
    first.cardExpr texts = second.cardExpr texts ↔ DeviceAlike texts first second := by
  constructor
  · intro same
    simp only [HostDeviceSpec.cardExpr, Expr.map.injEq, cons.injEq, Prod.mk.injEq, Expr.symbol.injEq, true_and,
      and_true, directionSymbol_injective.eq_iff] at same
    obtain ⟨id, backend, media, direction, clock, buffer⟩ := same
    exact ⟨id, backend, media, direction, clock, buffer⟩
  · rintro ⟨id, backend, media, direction, clock, buffer⟩
    rw [HostDeviceSpec.cardExpr, HostDeviceSpec.cardExpr, id, backend, media, direction, clock, buffer]

private theorem portCard_inj {first second : HostPortSpec} :
    first.cardExpr texts = second.cardExpr texts ↔ PortAlike texts first second := by
  constructor
  · intro same
    simp only [HostPortSpec.cardExpr, Expr.map.injEq, cons.injEq, Prod.mk.injEq, Expr.symbol.injEq, true_and, and_true,
      directionSymbol_injective.eq_iff] at same
    obtain ⟨id, device, backend, media, direction⟩ := same
    exact ⟨id, device, backend, media, direction⟩
  · rintro ⟨id, device, backend, media, direction⟩
    rw [HostPortSpec.cardExpr, HostPortSpec.cardExpr, id, device, backend, media, direction]

private theorem map_inj_iff {α β : Type} {render : α → β} {alike : α → α → Prop}
    (inj : ∀ {first second}, render first = render second ↔ alike first second) {first second : List α} :
    first.map render = second.map render ↔ Forall₂ alike first second := by
  have same : (fun left right => render left = render right) = alike := funext₂ fun _ _ => propext inj
  rw [← forall₂_eq_eq_eq, forall₂_map_left_iff, forall₂_map_right_iff, same]

def cardKind (card : Expr) : Option Symbol := (firstField card.entries "kind").bind Expr.asSymbol

def isKind (kind : String) (card : Expr) : Bool := cardKind card = some (.qualified "stream" kind)

private theorem isKind_iff {kind : String} {card : Expr} : isKind kind card ↔ cardKind card = some (.qualified "stream" kind) :=
  decide_eq_true_iff

private theorem isKind_unique {kind other : String} (distinct : kind ≠ other) {card : Expr} (first : isKind kind card) :
    ¬ isKind other card := by
  rw [isKind_iff] at first ⊢
  rw [first]
  exact fun same => distinct (Symbol.mk.inj (Option.some.inj same)).2

private theorem found_kinds {row : BackendListing} {card : Expr} (member : card ∈ row.found texts) :
    isKind "host-device" card ∨ isKind "host-port" card := by
  rcases mem_append.mp member with device | port
  · obtain ⟨device, _, rfl⟩ := mem_map.mp device
    exact .inl rfl
  · obtain ⟨port, _, rfl⟩ := mem_map.mp port
    exact .inr rfl

private theorem block_formed (row : BackendListing) : Blocks.Formed (isKind "host-backend") (row.block texts) where
  first := rfl
  body card member := by
    rcases found_kinds member with device | port
    · exact isKind_unique (by decide) device
    · exact isKind_unique (by decide) port

private theorem backendCard_inj {first second : BackendListing} : first.card texts = second.card texts ↔
    first.info.id = second.info.id ∧ first.info.transport = second.info.transport ∧
      texts.media first.info.media = texts.media second.info.media ∧
      first.info.hardwareRequired = second.info.hardwareRequired ∧
      first.info.callbacksBounded = second.info.callbacksBounded ∧ first.info.capabilities = second.info.capabilities := by
  have symbols : Function.Injective fun capability : HostBackendCapability => Expr.symbol capability.symbol :=
    fun _ _ same => capabilitySymbol_injective (Expr.symbol.inj same)
  simp only [BackendListing.card, HostBackendInfo.cardExpr, Expr.map.injEq, cons.injEq, Prod.mk.injEq,
    Expr.symbol.injEq, Expr.bool.injEq, Expr.list.injEq, symbols.list_map.eq_iff, true_and, and_true]

private theorem found_inj {first second : BackendListing} : first.found texts = second.found texts ↔
    Forall₂ (DeviceAlike texts) first.inventory.devices second.inventory.devices ∧
      Forall₂ (PortAlike texts) first.inventory.ports second.inventory.ports := by
  have devices (row : BackendListing) :
      ∀ card ∈ row.inventory.devices.map (·.cardExpr texts), isKind "host-device" card := by
    intro card member
    obtain ⟨device, _, rfl⟩ := mem_map.mp member
    rfl
  have ports (row : BackendListing) : ∀ card ∈ row.inventory.ports.map (·.cardExpr texts), ¬ isKind "host-device" card := by
    intro card member
    obtain ⟨port, _, rfl⟩ := mem_map.mp member
    have shown : isKind "host-port" (port.cardExpr texts) := rfl
    exact isKind_unique (by decide) shown
  rw [BackendListing.found, BackendListing.found, HostDeviceInventory.cardExprs, HostDeviceInventory.cardExprs,
    Blocks.append_inj_of_kind (devices first) (ports first) (devices second) (ports second),
    map_inj_iff deviceCard_inj, map_inj_iff portCard_inj]

private theorem block_inj {first second : BackendListing} :
    first.block texts = second.block texts ↔ Alike texts first second := by
  rw [BackendListing.block, BackendListing.block, Prod.mk.injEq, backendCard_inj, found_inj]
  constructor
  · rintro ⟨⟨id, transport, media, hardwareRequired, callbacksBounded, capabilities⟩, devices, ports⟩
    exact ⟨id, transport, media, hardwareRequired, callbacksBounded, capabilities, devices, ports⟩
  · rintro ⟨id, transport, media, hardwareRequired, callbacksBounded, capabilities, devices, ports⟩
    exact ⟨⟨id, transport, media, hardwareRequired, callbacksBounded, capabilities⟩, devices, ports⟩

private theorem listingCards_inj {first second : List BackendListing} :
    listingCards texts first = listingCards texts second ↔ Forall₂ (Alike texts) first second := by
  have formed (rows : List BackendListing) :
      ∀ block ∈ rows.map (·.block texts), Blocks.Formed (isKind "host-backend") block := by
    intro block member
    obtain ⟨row, _, rfl⟩ := mem_map.mp member
    exact block_formed row
  rw [listingCards, listingCards, Blocks.join_inj (formed first) (formed second), map_inj_iff block_inj]

private theorem missing_not_listed (rows : List BackendListing) (backend : Symbol) (capability : HostBackendCapability) :
    missingCapabilityCardExpr backend capability ∉ listingCards texts rows := by
  intro member
  have missing : isKind "host-missing-capability" (missingCapabilityCardExpr backend capability) := rfl
  obtain ⟨block, listed, member⟩ := mem_flatMap.mp member
  obtain ⟨row, _, rfl⟩ := mem_map.mp listed
  rcases mem_cons.mp member with same | member
  · have shown : isKind "host-backend" (row.card texts) := rfl
    rw [show row.card texts = _ from same.symm] at shown
    exact isKind_unique (by decide) missing shown
  · rcases found_kinds member with device | port
    · exact isKind_unique (by decide) missing device
    · exact isKind_unique (by decide) missing port

end

private theorem enumerateBackends_eq (backends : List (HostBackend ω ν δ)) (world : ω) :
    enumerateBackends backends world = (listBackends backends world).map (Except.map (·.map (·.inventory))) id := by
  induction backends generalizing world with
  | nil => rfl
  | cons backend rest ih =>
    rw [enumerateBackends, listBackends]
    rcases backend.enumerate world with ⟨error | inventory, later⟩
    · rfl
    · dsimp only
      rw [ih later]
      rcases listBackends rest later with ⟨error | rows, last⟩ <;> rfl

private theorem backendCards_eq (texts : CardTexts) (backends : List (HostBackend ω ν δ)) (cards : List Expr) (world : ω) :
    backendCards texts backends cards world =
      (listBackends backends world).map (Except.map (cards ++ listingCards texts ·)) id := by
  induction backends generalizing cards world with
  | nil => exact congrArg (Prod.mk · world) (congrArg Except.ok (append_nil cards).symm)
  | cons backend rest ih =>
    rw [backendCards, listBackends]
    rcases backend.enumerate world with ⟨error | inventory, later⟩
    · rfl
    · dsimp only
      rw [ih _ later]
      rcases listBackends rest later with ⟨error | rows, last⟩
      · rfl
      · simp only [Prod.map, Except.map, append_assoc, id]
        rfl

private theorem listBackends_infos {backends : List (HostBackend ω ν δ)} {world : ω} {rows : List BackendListing}
    (listed : (listBackends backends world).1 = .ok rows) : rows.map (·.info) = backends.map (·.info) := by
  induction backends generalizing world rows with
  | nil => cases listed; rfl
  | cons backend rest ih =>
    rw [listBackends] at listed
    rcases enumerated : backend.enumerate world with ⟨error | inventory, later⟩
    · rw [enumerated] at listed
      cases listed
    · rw [enumerated] at listed
      obtain ⟨others, found, rfl⟩ := Except.map_eq_ok.mp listed
      rw [map_cons, map_cons, ih found]

private theorem values_ascending (registry : HostBackendRegistry ω ν δ) :
    (registry.backends.values.map (·.info.id)).Pairwise (compare · · = .lt) := by
  have keys : registry.backends.values.map (·.info.id) = registry.backends.toList.map Prod.fst := by
    rw [OrdMap.values_eq, map_map]
    refine map_congr_left fun entry member => ?_
    exact registry.keyed entry.1 entry.2 (ExtTreeMap.mem_toList_iff_getElem?_eq_some.mp member)
  rw [keys, pairwise_map]
  exact ExtTreeMap.ordered_keys_toList

/-- Cards and inventories are two renderings of one listing, and fail where it fails.
Equal cards mean equal listings, whatever worlds and streams the two registries work over. -/
theorem cards_tell_registries_apart (texts : CardTexts) (registry : HostBackendRegistry ω ν δ) (world : ω) :
    registry.enumerate world = (listing registry world).map (Except.map (·.map (·.inventory))) id ∧
      registry.cardExprs texts world = (listing registry world).map (Except.map (listingCards texts)) id ∧
      ∀ rows, (listing registry world).1 = .ok rows →
        rows.map (·.info) = registry.backends.values.map (·.info) ∧
        (rows.map (·.info.id)).Pairwise (compare · · = .lt) ∧
        (∀ backend capability, missingCapabilityCardExpr backend capability ∉ listingCards texts rows) ∧
        ∀ (ω' ν' δ' : Type) (other : HostBackendRegistry ω' ν' δ') (otherWorld : ω') (others : List BackendListing),
          (listing other otherWorld).1 = .ok others →
          ((registry.cardExprs texts world).1 = (other.cardExprs texts otherWorld).1 ↔
            Forall₂ (Alike texts) rows others) := by
  have cards {ω ν δ : Type} (registry : HostBackendRegistry ω ν δ) (world : ω) :
      registry.cardExprs texts world = (listing registry world).map (Except.map (listingCards texts)) id :=
    backendCards_eq texts registry.backends.values [] world
  refine ⟨enumerateBackends_eq _ world, cards registry world, ?_⟩
  intro rows listed
  have infos := listBackends_infos listed
  have ids : rows.map (·.info.id) = registry.backends.values.map (·.info.id) := by
    simpa only [map_map, Function.comp_def] using congrArg (map (·.id)) infos
  refine ⟨infos, ids ▸ values_ascending registry, missing_not_listed rows, ?_⟩
  intro ω' ν' δ' other otherWorld others otherListed
  rw [cards registry world, cards other otherWorld, Prod.map_fst, Prod.map_fst, listed, otherListed]
  exact ⟨fun same => listingCards_inj.mp (Except.ok.inj same),
    fun alike => congrArg Except.ok (listingCards_inj.mpr alike)⟩

def plainTexts : CardTexts where
  media
    | .pcm => .qualified "stream/media" "pcm"
    | .midi => .qualified "stream/media" "midi"
    | .diagnostic => .qualified "stream/media" "diagnostic"
    | .data => .qualified "stream/media" "data"
  buffer policy := .number ⟨.new "u64", toString policy.capacity.toNat⟩

def oneClock : ClockSymbols := ⟨fun _ => .new "clock", fun _ => .ok .midiTick⟩

def shownFake : HostBackend Unit (BoundedItems Nat) Unit :=
  (FakeBackend.new oneClock ⟨4⟩).backend oneClock (boundedStream Nat)

def shownMidi : HostBackend Unit (BoundedItems Nat) Unit :=
  RtpMidiBackend.backend ⟨oneClock, fun capacity => .ok ⟨capacity⟩, boundedStream Nat⟩

/-- The registry of these backends, registered one after the other. -/
def registryOf (backends : List (HostBackend Unit (BoundedItems Nat) Unit)) :
    HostBackendRegistry Unit (BoundedItems Nat) Unit :=
  backends.foldl (fun registry backend => (registry.register backend).2) new

/-- The order of registration does not show in the cards, a missing backend does. -/
theorem two_backends_shown :
    ((registryOf [shownFake, shownMidi]).cardExprs plainTexts ()).1 =
      ((registryOf [shownMidi, shownFake]).cardExprs plainTexts ()).1 ∧
    ((registryOf [shownFake, shownMidi]).cardExprs plainTexts ()).1 ≠
      ((registryOf [shownFake]).cardExprs plainTexts ()).1 := by
  have apart := (cards_tell_registries_apart plainTexts (registryOf [shownFake, shownMidi]) ()).2.2 _ rfl
  constructor
  · exact (apart.2.2.2 _ _ _ (registryOf [shownMidi, shownFake]) () _ rfl).mpr (listingCards_inj.mp rfl)
  · intro same
    have alike := (apart.2.2.2 _ _ _ (registryOf [shownFake]) () _ rfl).mp same
    cases alike with
    | cons _ rest => cases rest

end StreamHost.Proofs.BrowseCards
