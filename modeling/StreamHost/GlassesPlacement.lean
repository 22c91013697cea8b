import StreamHost.Device

/-! Device sites and their placement: the site that encodes a surface, and the
adapter that must stand at the edge, as glasses routes resolve to them. -/

namespace StreamHost

inductive DeviceSiteLocality where
  | edgeLocal
  | hostLocal
  | remote
deriving DecidableEq, Repr

structure DeviceSite where
  symbol : Symbol
  profile : DeviceProfile
  surfaceCodecId : Symbol
  locality : DeviceSiteLocality
deriving DecidableEq, Repr

namespace DeviceSite

def edgeLocal (symbol : Symbol) (profile : DeviceProfile) (surfaceCodecId : Symbol) : DeviceSite :=
  ⟨symbol, profile, surfaceCodecId, .edgeLocal⟩

def isEdgeLocal (site : DeviceSite) : Bool := site.locality = .edgeLocal

def requireEdgeLocal (site : DeviceSite) : DeviceResult Unit :=
  if site.isEdgeLocal then .ok () else .error (.host s!"device adapter site {site.symbol} must be edge-local")

end DeviceSite

inductive PlacementError where
  | adapterMustBeEdgeLocal
deriving DecidableEq, Repr

structure DevicePlacement where
  encoder : DeviceSite
  adapter : DeviceSite
deriving DecidableEq, Repr

def DevicePlacement.validate (placement : DevicePlacement) : Except PlacementError Unit :=
  if placement.adapter.isEdgeLocal then .ok () else .error .adapterMustBeEdgeLocal

inductive GlassesAdapterKind where
  | reprojector
  | glance
  | mirror
  | controllerIntent
deriving DecidableEq, Repr

namespace GlassesAdapterKind

def token : GlassesAdapterKind → String
  | reprojector => "glasses-reprojector"
  | glance => "glasses-glance-adapter"
  | mirror => "glasses-mirror-adapter"
  | controllerIntent => "glasses-controller-intent"

def surfaceCodecId : GlassesAdapterKind → Symbol
  | reprojector => .qualified "codec" "scene-spatial"
  | glance => .qualified "codec" "scene-glance"
  | mirror => .qualified "codec" "scene-mirror"
  | controllerIntent => .qualified "codec" "intent"

end GlassesAdapterKind

structure ResolvedGlassesPlacement where
  route : Symbol
  adapter : GlassesAdapterKind
  placement : DevicePlacement
deriving DecidableEq, Repr

structure GlassesPlacementRequest where
  route : Symbol
  profile : DeviceProfile
  encoderLocality : DeviceSiteLocality
  adapter : GlassesAdapterKind
deriving DecidableEq, Repr

def routeSiteSymbol (route : Symbol) (role : String) : Symbol := .qualified "device/site" s!"{route.name}-{role}"

def GlassesPlacementRequest.resolve (request : GlassesPlacementRequest) :
    Except PlacementError ResolvedGlassesPlacement := do
  let codec := request.adapter.surfaceCodecId
  let encoder : DeviceSite := ⟨routeSiteSymbol request.route "encoder", request.profile, codec, request.encoderLocality⟩
  let adapter := DeviceSite.edgeLocal (.qualified "device/site" request.adapter.token) request.profile codec
  let placement : DevicePlacement := ⟨encoder, adapter⟩
  placement.validate
  return ⟨request.route, request.adapter, placement⟩

inductive GlassesPlacementError where
  | unknownRoute (route : Symbol)
  | invalidPlacement (error : PlacementError)
deriving DecidableEq, Repr

/-- Where the encoder of a route stands, and the adapter of the route. -/
def glassesRoute : String → Option (DeviceSiteLocality × GlassesAdapterKind)
  | "direct-linux" | "android-usb" => some (.hostLocal, .reprojector)
  | "neckband-local" => some (.edgeLocal, .reprojector)
  | "neckband-relay" => some (.remote, .reprojector)
  | "mobile-dock-display" => some (.hostLocal, .mirror)
  | "ble-direct" | "web-bluetooth" => some (.hostLocal, .glance)
  | "phone-relay" => some (.remote, .glance)
  | "controller-hid" => some (.hostLocal, .controllerIntent)
  | _ => none

def resolveGlassesPlacement (route : Symbol) (profile : DeviceProfile) :
    Except GlassesPlacementError ResolvedGlassesPlacement := do
  .rejectIf (route.ns ≠ some "device/route") (.unknownRoute route)
  match glassesRoute route.name with
  | none => .error (.unknownRoute route)
  | some (locality, adapter) =>
    (GlassesPlacementRequest.resolve ⟨route, profile, locality, adapter⟩).mapError .invalidPlacement

/-- What a resolved placement is worth: its adapter stands at the edge, its two sites share
profile and codec, and the encoder is named after the route. -/
structure ResolvedGlassesPlacement.Sound (resolved : ResolvedGlassesPlacement) (route : Symbol)
    (profile : DeviceProfile) : Prop where
  routed : resolved.route = route
  valid : resolved.placement.validate = .ok ()
  edge : resolved.placement.adapter.requireEdgeLocal = .ok ()
  encoder : resolved.placement.encoder.symbol = routeSiteSymbol route "encoder"
  adapter : resolved.placement.adapter.symbol = .qualified "device/site" resolved.adapter.token
  profiles : resolved.placement.encoder.profile = profile ∧ resolved.placement.adapter.profile = profile
  codecs : resolved.placement.encoder.surfaceCodecId = resolved.adapter.surfaceCodecId ∧
    resolved.placement.adapter.surfaceCodecId = resolved.adapter.surfaceCodecId

/-- The adapter of a request is built at the edge, wherever the encoder is asked for. -/
theorem GlassesPlacementRequest.resolve_sound (request : GlassesPlacementRequest) :
    ∃ resolved, request.resolve = .ok resolved ∧ resolved.Sound request.route request.profile :=
  ⟨_, rfl, rfl, rfl, rfl, rfl, rfl, ⟨rfl, rfl⟩, ⟨rfl, rfl⟩⟩

/-- A glasses route is refused by name or resolved to a valid placement. -/
theorem resolveGlassesPlacement_total (route : Symbol) (profile : DeviceProfile) :
    resolveGlassesPlacement route profile = .error (.unknownRoute route) ∨
      route.ns = some "device/route" ∧
        ∃ resolved, resolveGlassesPlacement route profile = .ok resolved ∧ resolved.Sound route profile := by
  unfold resolveGlassesPlacement
  by_cases inside : route.ns = some "device/route"
  · have passed : Except.rejectIf (route.ns ≠ some "device/route") (GlassesPlacementError.unknownRoute route) = .ok ⟨⟩ :=
      Except.rejectIf_eq_ok.mpr (not_not.mpr inside)
    rw [passed]
    cases named : glassesRoute route.name with
    | none => exact .inl rfl
    | some site =>
      obtain ⟨resolved, found, sound⟩ := GlassesPlacementRequest.resolve_sound ⟨route, profile, site.1, site.2⟩
      have placed : Except.mapError GlassesPlacementError.invalidPlacement
          (GlassesPlacementRequest.resolve ⟨route, profile, site.1, site.2⟩) = .ok resolved :=
        Except.mapError_eq_ok.mpr found
      exact .inr ⟨inside, resolved, placed, sound⟩
  · rw [Except.rejectIf, if_pos inside]
    exact .inl rfl

theorem routeSiteSymbol_inj {first second : Symbol} {role : String} :
    routeSiteSymbol first role = routeSiteSymbol second role ↔ first.name = second.name := by
  simp only [routeSiteSymbol, Symbol.qualified, Symbol.mk.injEq, true_and]
  exact (String.append_left_inj _).trans (String.append_left_inj _)

/-- Resolved routes with the same encoder site are the same route. -/
theorem encoder_names_route {first second : Symbol} {profile other : DeviceProfile}
    {left right : ResolvedGlassesPlacement} (resolved : resolveGlassesPlacement first profile = .ok left)
    (resolvedToo : resolveGlassesPlacement second other = .ok right)
    (same : left.placement.encoder.symbol = right.placement.encoder.symbol) : first = second := by
  rcases resolveGlassesPlacement_total first profile with refused | ⟨inside, found, ok, sound⟩
  · rw [refused] at resolved; cases resolved
  rcases resolveGlassesPlacement_total second other with refused | ⟨insideToo, foundToo, okToo, soundToo⟩
  · rw [refused] at resolvedToo; cases resolvedToo
  obtain rfl := Except.ok.inj (ok.symm.trans resolved)
  obtain rfl := Except.ok.inj (okToo.symm.trans resolvedToo)
  have names := routeSiteSymbol_inj.mp (sound.encoder.symm.trans (same.trans soundToo.encoder))
  obtain ⟨ns, name⟩ := first
  obtain ⟨nsToo, nameToo⟩ := second
  rw [show ns = nsToo from inside.trans insideToo.symm, show name = nameToo from names]

end StreamHost
