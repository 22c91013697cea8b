import StreamHost.Proofs.HaloDisplay
import StreamHost.Proofs.SampleLanes

/-! The lanes of a Halo session. Samples of all kinds share one queue, from which a
poll removes the first of its kind; the order within each kind is what validation
has checked. -/

namespace StreamHost.Proofs.HaloLanes
open Std Halo SampleLanes

def haloLane (kind : String) (session : HaloSession) : List HaloSample := session.samples.filter (·.sampleKind = kind)

section Erase
variable {α : Type} {kept erased : α → Bool}

private theorem filter_eraseP_self (items : List α) : (items.eraseP erased).filter erased = (items.filter erased).tail := by
  induction items with
  | nil => rfl
  | cons item rest ih =>
    by_cases first : erased item = true
    · rw [List.eraseP_cons_of_pos first, List.filter_cons_of_pos first, List.tail_cons]
    · rw [List.eraseP_cons_of_neg first, List.filter_cons_of_neg first, List.filter_cons_of_neg first, ih]

private theorem filter_eraseP_of_disjoint (disjoint : ∀ item, kept item = true → ¬ erased item = true) (items : List α) :
    (items.eraseP erased).filter kept = items.filter kept := by
  induction items with
  | nil => rfl
  | cons item rest ih =>
    by_cases first : erased item = true
    · rw [List.eraseP_cons_of_pos first, List.filter_cons_of_neg fun keep => disjoint item keep first]
    · rw [List.eraseP_cons_of_neg first, List.filter_cons, List.filter_cons, ih]

end Erase

section Lanes
variable (externals : HaloExternals)

private theorem invoke_samples (request : EffectRequest) (session : HaloSession) :
    (HaloSession.invoke externals request session).2.samples = session.samples := by
  unfold HaloSession.invoke
  split
  · rfl
  split
  · rfl
  split
  · rfl
  simp only []
  split <;> rfl

/-- A started poll removes the first sample of its kind, if there is one. -/
theorem poll_started {session : HaloSession} (started : session.started = true) (kind : String) :
    HaloSession.poll externals kind session =
      (.ok ((session.samples.find? (·.sampleKind = kind)).map (HaloSample.toExpr externals)),
        { session with samples := session.samples.eraseP (·.sampleKind = kind) }) := by
  rw [HaloSession.poll, HaloSession.requireStarted, if_pos started, List.eraseP_eq_eraseIdx,
    List.find?_eq_bind_findIdx?_getElem?]
  cases session.samples.findIdx? (·.sampleKind = kind) with
  | none => rfl
  | some index => rfl

private theorem poll_stopped {session : HaloSession} (stopped : session.started = false) (kind : String) :
    HaloSession.poll externals kind session = (.error (.host "Halo session is not started"), session) := by
  rw [HaloSession.poll, HaloSession.requireStarted, if_neg (Bool.not_eq_true _ ▸ stopped)]

private theorem halo_serves : ServesLanes (HaloSession.session externals) HaloSession.started haloLane
    (HaloSample.toExpr externals) where
  start _ _ := rfl
  stop _ _ := rfl
  invoke kind request session := congrArg (List.filter _) (invoke_samples externals request session)
  served kind session started := by
    have polled : (HaloSession.session externals).poll kind session = _ := poll_started externals started kind
    rw [polled, haloLane, List.head?_filter]
    exact ⟨rfl, filter_eraseP_self session.samples⟩
  others kind other session different := by
    cases started : session.started with
    | false =>
      have polled : (HaloSession.session externals).poll kind session = _ := poll_stopped externals started kind
      rw [polled]
    | true =>
      have polled : (HaloSession.session externals).poll kind session = _ := poll_started externals started kind
      rw [polled]
      refine filter_eraseP_of_disjoint (fun sample ofOther ofKind => different ?_) session.samples
      exact (of_decide_eq_true ofOther).symm.trans (of_decide_eq_true ofKind)
  refused kind session stopped := by
    have polled : (HaloSession.session externals).poll kind session = _ := poll_stopped externals stopped kind
    rw [polled]
    exact ⟨⟨_, rfl⟩, rfl⟩
  empty kind session none := by
    cases started : session.started with
    | false => exact congrArg Prod.snd (poll_stopped externals started kind)
    | true =>
      have polled : (HaloSession.session externals).poll kind session = _ := poll_started externals started kind
      have unknown : ∀ sample ∈ session.samples, ¬ decide (sample.sampleKind = kind) = true := List.filter_eq_nil_iff.mp none
      rw [polled, List.eraseP_of_forall_not unknown]

end Lanes

section Validated
variable {symbols : SampleSymbols}

/-- What a scan that passes says of the samples that were left to it. -/
structure Passes (scan : SampleScan) (samples : List HaloSample) : Prop where
  ordered : ∀ kind, (scan.lastSeq[kind]?.toList ++ (samples.filter (·.sampleKind = kind)).map HaloSample.seq).Pairwise (· ≤ ·)
  cameras : scan.cameraCount ≤ 1 → scan.cameraCount + samples.countP HaloSample.isCamera ≤ 1

/-- A scanned sample is not below the last one of its kind, so it starts the ordered rest. -/
theorem scanSample_ordered {scan next : SampleScan} {sample : HaloSample} {rest : List HaloSample}
    (scanned : scanSample symbols scan sample = .ok next) (kind : String)
    (later : (next.lastSeq[kind]?.toList ++ (rest.filter (·.sampleKind = kind)).map HaloSample.seq).Pairwise (· ≤ ·)) :
    (scan.lastSeq[kind]?.toList ++ ((sample :: rest).filter (·.sampleKind = kind)).map HaloSample.seq).Pairwise (· ≤ ·) := by
  simp only [scanSample, Except.bind_eq_ok, Except.rejectIf_eq_ok] at scanned
  obtain ⟨_, _, _, _, _, ascending, made⟩ := scanned
  cases made
  rw [OrdMap.getElem?_insert] at later
  by_cases same : sample.sampleKind = kind
  · subst same
    rw [if_pos rfl] at later
    rw [List.filter_cons, if_pos (decide_eq_true rfl), List.map_cons]
    cases first : scan.lastSeq[sample.sampleKind]? with
    | none => exact later
    | some previous =>
      have below : previous ≤ sample.seq := by simpa [first] using ascending
      refine List.pairwise_cons.mpr ⟨?_, later⟩
      intro other member
      rcases List.mem_cons.mp member with rfl | member
      · exact below
      · exact UInt64.le_trans below ((List.pairwise_cons.mp later).1 other member)
  · rw [if_neg same] at later
    rwa [List.filter_cons, if_neg (by simpa using same)]

/-- A scanned camera sample is the first one. -/
theorem scanSample_cameras {scan next : SampleScan} {sample : HaloSample} {rest : List HaloSample}
    (scanned : scanSample symbols scan sample = .ok next)
    (later : next.cameraCount ≤ 1 → next.cameraCount + rest.countP HaloSample.isCamera ≤ 1) (few : scan.cameraCount ≤ 1) :
    scan.cameraCount + (sample :: rest).countP HaloSample.isCamera ≤ 1 := by
  simp only [scanSample, Except.bind_eq_ok, Except.rejectIf_eq_ok] at scanned
  obtain ⟨_, _, _, single, _, _, made⟩ := scanned
  cases made
  cases camera : sample.isCamera with
  | true =>
    rw [camera] at single later
    have counted := later (by simpa using single)
    rw [List.countP_cons_of_pos camera]
    simp only [if_true] at counted
    omega
  | false =>
    rw [camera] at later
    have counted := later (by simpa using few)
    rw [List.countP_cons_of_neg (by simp [camera])]
    simpa using counted

private theorem scan_passes {scan last : SampleScan} {samples : List HaloSample}
    (scanned : samples.foldlM (scanSample symbols) scan = .ok last) : Passes scan samples := by
  induction samples generalizing scan with
  | nil =>
    refine ⟨fun kind => ?_, fun few => few⟩
    cases scan.lastSeq[kind]? <;> simp
  | cons sample rest ih =>
    rw [List.foldlM_cons, Except.bind_eq_ok] at scanned
    obtain ⟨next, checked, scanned⟩ := scanned
    have passes := ih scanned
    constructor
    · intro kind
      exact scanSample_ordered checked kind (passes.ordered kind)
    · exact scanSample_cameras checked passes.cameras

private theorem validateSamples_passes {samples : List HaloSample} (valid : validateSamples symbols samples = .ok ()) :
    Passes ⟨∅, 0⟩ samples := by
  rw [validateSamples, Except.bind_eq_ok] at valid
  obtain ⟨_, scanned, _⟩ := valid
  exact scan_passes scanned

end Validated

/-- The samples a route was scripted with. -/
def routeSamples : HaloRoute → List HaloSample
  | .ble link => link.samples
  | .webBluetooth link => link.samples
  | .relay link => link.samples
  | .stub => []

private theorem openSession_samples {symbols : SampleSymbols} {provider : HaloProvider} {session : HaloSession}
    (opened : provider.openSession symbols = .ok session) :
    session.samples = routeSamples provider.route ∧ Passes ⟨∅, 0⟩ session.samples := by
  simp only [HaloProvider.openSession, Except.bind_eq_ok] at opened
  obtain ⟨⟨route, samples⟩, found, _, valid, same⟩ := opened
  cases same
  refine ⟨?_, validateSamples_passes valid⟩
  cases linked : provider.route with
  | ble link =>
    rw [linked] at found
    simp only [Except.map_eq_ok, BlueZLink.openSamples, Except.bind_eq_ok] at found
    obtain ⟨_, ⟨_, _, _, _, scripted⟩, same⟩ := found
    cases same; cases scripted
    rfl
  | webBluetooth link =>
    rw [linked] at found
    simp only [Except.map_eq_ok, WebBluetoothLink.openSamples, Except.bind_eq_ok] at found
    obtain ⟨_, ⟨_, _, scripted⟩, same⟩ := found
    cases same; cases scripted
    rfl
  | relay link =>
    rw [linked] at found
    simp only [Except.map_eq_ok, RelayLink.openSamples, Except.bind_eq_ok] at found
    obtain ⟨_, ⟨_, _, scripted⟩, same⟩ := found
    cases same; cases scripted
    rfl
  | stub =>
    rw [linked] at found
    cases found

/-- What the polls of a run received of each lane, what they left, and that nothing
else touched it; each lane is in the order of its sequence numbers. -/
structure DeliversLanes (externals : HaloExternals) (samples : List HaloSample) (run : List (SessionEvent HaloSession))
    (last : HaloSession) : Prop where
  follows : ∀ kind, FollowsLane HaloSession.started (HaloSample.toExpr externals) kind
    (samples.filter (·.sampleKind = kind)) (haloLane kind last) run
  complete : ∀ kind, (samples.filter (·.sampleKind = kind)).length ≤ asked HaloSession.started kind run →
    delivered kind run = (samples.filter (·.sampleKind = kind)).map (HaloSample.toExpr externals)
  keeps : ∀ event ∈ run, ∀ kind, asks HaloSession.started kind event = false →
    haloLane kind event.after = haloLane kind event.before
  refused : ∀ event ∈ run, ∀ kind, event.input = .poll kind → event.before.started = false →
    (∃ error, event.output = .sample (.error error)) ∧ event.after = event.before
  unknown : ∀ event ∈ run, ∀ kind, event.input = .poll kind → haloLane kind event.before = [] → event.after = event.before
  ascending : ∀ kind, (((samples.filter (·.sampleKind = kind)).take (asked HaloSession.started kind run)).map
    HaloSample.seq).Pairwise (· ≤ ·)
  camera : (delivered "xr/camera-frame" run).length ≤ 1

private theorem camera_lane (samples : List HaloSample) :
    (samples.filter (·.sampleKind = "xr/camera-frame")).length = samples.countP HaloSample.isCamera := by
  rw [List.countP_eq_length_filter]
  congr 2
  funext sample
  cases sample <;> simp [HaloSample.sampleKind, HaloSample.isCamera]

/-- Over every run of an opened session, each kind's samples are delivered in order,
once each, and to the polls of that kind alone. -/
theorem opened_delivers_lanes (externals : HaloExternals) (provider : HaloProvider) (session : HaloSession)
    (opened : provider.openSession externals.symbols = .ok session) (calls : List SessionCall) :
    DeliversLanes externals (routeSamples provider.route) ((HaloSession.session externals).machine.trace session calls)
      ((HaloSession.session externals).machine.final session calls) := by
  obtain ⟨samples, passes⟩ := openSession_samples opened
  rw [← samples]
  have lanes := halo_serves externals
  have follows := fun kind => run_follows lanes kind session calls
  have ordered (kind : String) := passes.ordered kind
  refine ⟨follows, ?_, ?_, ?_, ?_, ?_, ?_⟩
  · intro kind enough
    rw [(follows kind).delivered, haloLane, List.take_of_length_le enough]
  · intro event member kind idle
    obtain ⟨earlier, _, _, same⟩ := Machine.mem_trace _ |>.mp member
    rw [same] at idle ⊢
    exact event_keeps lanes kind _ _ idle
  · intro event member kind polled stopped
    exact (poll_idle lanes member polled).1 stopped
  · intro event member kind polled none
    exact (poll_idle lanes member polled).2 none
  · intro kind
    have ordered := (List.pairwise_append.mp (passes.ordered kind)).2.1
    exact ordered.sublist ((List.take_sublist _ _).map HaloSample.seq)
  · have single := passes.cameras (Nat.zero_le 1)
    rw [Nat.zero_add, ← camera_lane] at single
    rw [(follows "xr/camera-frame").delivered, List.length_map, List.length_take]
    exact (Nat.min_le_right _ _).trans single

def buttonSample (seq : UInt64) : HaloSample := .button ⟨seq, .primary, true, 0⟩

def twoButtons : HaloProvider where
  route := .ble { adapter := "hci0", device := "halo-local", samples := [buttonSample 1, buttonSample 1] }
  profile := noProfile
  frameBudget := ⟨64⟩

/-- Two buttons are delivered to the first two started polls, whatever else is called. -/
theorem two_buttons_delivered : ∃ session, twoButtons.openSession oneScene.symbols = .ok session ∧
    DeliversLanes oneScene [buttonSample 1, buttonSample 1]
      ((HaloSession.session oneScene).machine.trace session
        [.poll "xr/button", .start, .poll "xr/tap", .poll "xr/button", .stop, .start, .poll "xr/button", .poll "xr/button"])
      ((HaloSession.session oneScene).machine.final session
        [.poll "xr/button", .start, .poll "xr/tap", .poll "xr/button", .stop, .start, .poll "xr/button", .poll "xr/button"]) := by
  have opened : ∃ session, twoButtons.openSession oneScene.symbols = .ok session := ⟨_, rfl⟩
  obtain ⟨session, opened⟩ := opened
  exact ⟨session, opened, opened_delivers_lanes oneScene twoButtons session opened _⟩

end StreamHost.Proofs.HaloLanes
