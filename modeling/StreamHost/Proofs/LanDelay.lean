import StreamHost.LanPlacement
import StreamHost.Lib.Result

/-! When the bar delay of a planned LAN placement is defined, and when it is the exact
delay. The product is cut off before it is divided, and the tempo is only checked by
the constructor. -/

namespace StreamHost.Proofs.LanDelay
open LanPlacementRequest LanPlacementReport

/-- Cutting off a number leaves its quotient exactly below the first multiple past the cut. -/
theorem min_div_eq_iff {number greatest divisor : Nat} (positive : 0 < divisor) :
    min number greatest / divisor = number / divisor ↔ number < divisor * (greatest / divisor + 1) := by
  have above : greatest < divisor * (greatest / divisor + 1) := Nat.lt_mul_div_succ greatest positive
  have quotient : number / divisor < greatest / divisor + 1 ↔ number < divisor * (greatest / divisor + 1) := by
    rw [Nat.div_lt_iff_lt_mul positive, Nat.mul_comm]
  by_cases fits : number ≤ greatest
  · rw [Nat.min_eq_left fits]
    exact iff_of_true rfl (Nat.lt_of_le_of_lt fits above)
  · have below : greatest / divisor ≤ number / divisor := Nat.div_le_div_right (by omega)
    rw [Nat.min_eq_right (by omega), ← quotient]
    omega

def product (bars beatsPerBar : UInt32) : UInt64 :=
  (bars.toUInt64.saturatingMul beatsPerBar.toUInt64).saturatingMul 60000

private theorem product_toNat (bars beatsPerBar : UInt32) :
    (product bars beatsPerBar).toNat = min (bars.toNat * beatsPerBar.toNat * 60000) UInt64.greatest := by
  unfold product
  rw [UInt64.toNat_saturatingMul, UInt64.toNat_saturatingMul]
  simp only [UInt32.toNat_toUInt64]
  change min (min (bars.toNat * beatsPerBar.toNat) UInt64.greatest * 60000) UInt64.greatest = _
  omega

/-- The fields for which the delay is the floor of the exact quotient. -/
def Sized : LanPlacementMode → Prop
  | .JitterBuffered .. => True
  | .BarDelay bars beatsPerBar tempoBpm _ _ => tempoBpm ≠ 0 ∧
    bars.toNat * beatsPerBar.toNat * 60000 < tempoBpm.toNat * (UInt64.greatest / tempoBpm.toNat + 1)

/-- The delay of a mode in exact arithmetic. -/
def IsDelay : LanPlacementMode → Option UInt64 → Prop
  | .JitterBuffered .., _ => True
  | .BarDelay bars beatsPerBar tempoBpm _ _, delay =>
    ∃ millis, delay = some millis ∧ millis.toNat = bars.toNat * beatsPerBar.toNat * 60000 / tempoBpm.toNat

private theorem barDelayMillis_iff (mode : LanPlacementMode) :
    (∃ delay, mode.barDelayMillis = .ok delay ∧ IsDelay mode delay) ↔ Sized mode := by
  cases mode with
  | JitterBuffered jitterPackets latencyCompFrames => exact iff_of_true ⟨none, rfl, trivial⟩ trivial
  | BarDelay bars beatsPerBar tempoBpm jitterPackets latencyCompFrames =>
    change (∃ delay, (divide (product bars beatsPerBar) tempoBpm.toUInt64).map some = .ok delay ∧ _) ↔ _
    by_cases zero : tempoBpm = 0
    · subst zero
      constructor
      · rintro ⟨delay, panicked, _⟩
        cases panicked
      · intro sized
        exact absurd rfl sized.1
    · have positive : 0 < tempoBpm.toNat := by
        apply Nat.pos_of_ne_zero
        intro none
        exact zero (UInt32.toNat_inj.mp none)
      have divisor : tempoBpm.toUInt64 ≠ 0 := by
        intro none
        have number := congrArg UInt64.toNat none
        rw [UInt32.toNat_toUInt64] at number
        exact Nat.ne_of_gt positive number
      have divided : divide (product bars beatsPerBar) tempoBpm.toUInt64 =
          .ok (product bars beatsPerBar / tempoBpm.toUInt64) := if_neg divisor
      have millis : (product bars beatsPerBar / tempoBpm.toUInt64).toNat =
          min (bars.toNat * beatsPerBar.toNat * 60000) UInt64.greatest / tempoBpm.toNat := by
        rw [UInt64.toNat_div, product_toNat, UInt32.toNat_toUInt64]
      rw [divided]
      constructor
      · rintro ⟨delay, computed, exact_millis, same, quotient⟩
        cases computed
        obtain rfl := Option.some.inj same
        exact ⟨zero, (min_div_eq_iff positive).mp (millis.symm.trans quotient)⟩
      · intro sized
        exact ⟨_, rfl, _, rfl, millis.trans ((min_div_eq_iff positive).mpr sized.2)⟩

/-- What the constructors build always has an exact delay. -/
theorem jitterBuffered_sized {jitterPackets : UInt32} {latencyCompFrames : UInt64} {mode : LanPlacementMode}
    (built : LanPlacementMode.jitterBuffered jitterPackets latencyCompFrames = .ok mode) : Sized mode := by
  unfold LanPlacementMode.jitterBuffered at built
  split at built
  · cases built
  · cases built
    trivial

theorem barDelay_sized {bars tempoBpm jitterPackets : UInt32} {latencyCompFrames : UInt64} {mode : LanPlacementMode}
    (built : LanPlacementMode.barDelay bars tempoBpm jitterPackets latencyCompFrames = .ok mode) : Sized mode := by
  unfold LanPlacementMode.barDelay at built
  split at built
  · cases built
  · split at built
    · cases built
    · rename_i tempo
      split at built
      · cases built
      · cases built
        have positive : 0 < tempoBpm.toNat := by
          apply Nat.pos_of_ne_zero
          intro none
          exact tempo (UInt32.toNat_inj.mp none)
        have word : bars.toNat < 2 ^ 32 := bars.toNat_lt
        have beats : defaultBeatsPerBar.toNat = 4 := rfl
        have greatest : UInt64.greatest = 2 ^ 64 - 1 := rfl
        have above := Nat.lt_mul_div_succ UInt64.greatest positive
        refine ⟨tempo, Nat.lt_of_le_of_lt ?_ above⟩
        rw [beats, greatest]
        omega

section Plan
variable {types : CoreTypes} (core : PlacementCore types) (request : LanPlacementRequest types)

/-- A pinned fragment with sample-domain edges, without the capability to place it anyway. -/
def Refused : Prop :=
  request.realtimePinned = true ∧ request.fragmentHasSampleDomain = true ∧ request.experimental = false

/-- The request is not refused, and the stream core accepts the mode's profile and each output
envelope under it. -/
def Placeable : Prop :=
  ¬ Refused request ∧ ∃ profile, request.mode.transportProfile core = .ok profile ∧
    ∀ envelope ∈ request.fragment.outputEnvelopes, ∃ built,
      core.newWithClockDomains (envelope.remote profile request.diagnostics) = .ok built

private theorem plan_refused (refused : Refused request) : ∃ error, request.plan core = .error error := by
  obtain ⟨pinned, sampled, plain⟩ := refused
  refine ⟨_, if_pos ?_⟩
  rw [pinned, sampled, plain]
  rfl

private theorem plan_admitted (admitted : ¬ Refused request) : request.plan core = (do
    let profile ← request.mode.transportProfile core
    let outputEnvelopes ← remoteOutputEnvelopes core request.fragment.outputEnvelopes profile request.diagnostics
    return ⟨request.fragment.id, lanPeerSiteSymbol, request.mode, request.mode.bridges core, outputEnvelopes,
      request.diagnostics⟩) := by
  apply if_neg
  intro refused
  apply admitted
  rw [Bool.and_eq_true, Bool.and_eq_true, Bool.not_eq_true'] at refused
  exact ⟨refused.1.1, refused.1.2, refused.2⟩

private theorem plan_mode {report : LanPlacementReport types} (planned : request.plan core = .ok report) :
    report.mode = request.mode := by
  by_cases refused : Refused request
  · obtain ⟨error, failed⟩ := plan_refused core request refused
    cases failed.symm.trans planned
  · rw [plan_admitted core request refused] at planned
    obtain ⟨profile, _, rest⟩ := Except.bind_eq_ok.mp planned
    obtain ⟨envelopes, _, done⟩ := Except.bind_eq_ok.mp rest
    cases done
    rfl

private theorem plan_ok_iff : (∃ report, request.plan core = .ok report) ↔ Placeable core request := by
  by_cases refused : Refused request
  · obtain ⟨error, failed⟩ := plan_refused core request refused
    constructor
    · rintro ⟨report, planned⟩
      cases failed.symm.trans planned
    · intro placeable
      exact absurd refused placeable.1
  · rw [plan_admitted core request refused]
    constructor
    · rintro ⟨report, planned⟩
      obtain ⟨profile, accepted, rest⟩ := Except.bind_eq_ok.mp planned
      obtain ⟨envelopes, built, _⟩ := Except.bind_eq_ok.mp rest
      exact ⟨refused, profile, accepted, Except.mapM_ok_iff.mp ⟨envelopes, built⟩⟩
    · rintro ⟨_, profile, accepted, each⟩
      obtain ⟨envelopes, built⟩ := Except.mapM_ok_iff.mpr each
      exact ⟨_, Except.bind_eq_ok.mpr ⟨profile, accepted, Except.bind_eq_ok.mpr ⟨envelopes, built, rfl⟩⟩⟩

private theorem toExpr_ok {report : LanPlacementReport types} {delay : Option UInt64}
    (computed : report.barDelayMillis = .ok delay) : ∃ expr, report.toExpr core = .ok expr :=
  ⟨_, Except.bind_eq_ok.mpr ⟨delay, computed, rfl⟩⟩

/-- The report's delay is defined, exact for a bar delay, and its expression can be built. -/
def Delays (report : LanPlacementReport types) : Prop :=
  (∃ delay, report.barDelayMillis = .ok delay ∧ IsDelay report.mode delay) ∧ ∃ expr, report.toExpr core = .ok expr

private theorem delays_iff (report : LanPlacementReport types) : Delays core report ↔ Sized report.mode := by
  rw [← barDelayMillis_iff]
  constructor
  · exact And.left
  · rintro ⟨delay, computed, exact_delay⟩
    exact ⟨⟨delay, computed, exact_delay⟩, toExpr_ok core computed⟩

/-- Planning fails, or gives a report with a delay, exactly where the request cannot be placed
or its mode's fields size one. -/
theorem lan_delay_iff :
    ((∃ error, request.plan core = .error error) ∨ ∃ report, request.plan core = .ok report ∧ Delays core report) ↔
      (¬ Placeable core request ∨ Sized request.mode) := by
  rw [← plan_ok_iff]
  cases planned : request.plan core with
  | error error =>
    apply iff_of_true (.inl ⟨error, rfl⟩)
    left
    rintro ⟨report, done⟩
    cases done
  | ok report =>
    have mode := plan_mode core request planned
    rw [← mode, ← delays_iff core]
    constructor
    · rintro (⟨error, failed⟩ | ⟨other, same, delays⟩)
      · cases failed
      · cases same
        exact .inr delays
    · rintro (unplaced | delays)
      · exact absurd ⟨report, rfl⟩ unplaced
      · exact .inr ⟨report, rfl, delays⟩

end Plan

section ZeroTempo

def plainTypes : CoreTypes := ⟨Unit, Unit, Unit, Symbol × LatencyClass, UInt32 ⊕ UInt64, Nat × Nat⟩

/-- A stream core that accepts every profile and envelope. -/
def plainCore : PlacementCore plainTypes where
  latencyClassSymbol
    | .bufferedPreview => .qualified "stream/latency" "buffered-preview"
    | .collabBarDelay => .qualified "stream/latency" "collab-bar-delay"
    | .other name => .qualified "stream/latency" name
  lanBufferedAudioPreview := (.qualified "stream/profile" "lan-buffered-audio-preview", .bufferedPreview)
  profile name latencyClass _ := .ok (name, latencyClass)
  profileName := Prod.fst
  newWithClockDomains := .ok
  jitterBuffer := .inl
  latencyCompDelay := .inr
  bridgeKindSymbol
    | .inl _ => .qualified "stream/bridge" "jitter-buffer"
    | .inr _ => .qualified "stream/bridge" "latency-comp-delay"
  bridgeLatency
    | .inl packets => (0, packets.toNat)
    | .inr frames => (frames.toNat, 0)
  zeroLatency := (0, 0)
  plus first second := (first.1 + second.1, first.2 + second.2)
  frameCount := Prod.fst
  packetCount := Prod.snd

/-- A bar delay written through the public variant, which no constructor checked. -/
def zeroTempo : LanPlacementRequest plainTypes := .new ⟨.new "lan-node", [], [.control], []⟩ (.BarDelay 2 4 0 2 64)

/-- The planned report panics on its delay and on its expression. -/
theorem zero_tempo_panics :
    (∃ report, zeroTempo.plan plainCore = .ok report ∧ report.barDelayMillis = .error .divideByZero ∧
      report.toExpr plainCore = .error .divideByZero) ∧
    ¬ ((∃ error, zeroTempo.plan plainCore = .error error) ∨
      ∃ report, zeroTempo.plan plainCore = .ok report ∧ Delays plainCore report) := by
  have planned : zeroTempo.plan plainCore = .ok ⟨.new "lan-node", lanPeerSiteSymbol, .BarDelay 2 4 0 2 64,
    [.inl 2, .inr 64], [], []⟩ := rfl
  refine ⟨⟨_, planned, rfl, rfl⟩, ?_⟩
  rintro (⟨error, failed⟩ | ⟨report, done, ⟨delay, computed, _⟩, _⟩)
  · cases planned.symm.trans failed
  · obtain rfl := Except.ok.inj (planned.symm.trans done)
    cases computed

end ZeroTempo

end StreamHost.Proofs.LanDelay
