import StreamHost.Lib.FirstOffender
import StreamHost.Proofs.HaloLanes

/-! Which Halo routes open, and what stops the others: the first empty text of the link,
or else the first sample that is invalid, a second camera pull or behind its own kind. -/

namespace StreamHost.Proofs.HaloOpening
open Std Halo HaloLanes

/-- The texts of a link, each with the name it has in an error. -/
def routeTexts : HaloRoute → List (String × String)
  | .ble link => [(link.adapter, "BlueZ adapter"), (link.device, "BlueZ device")]
  | .webBluetooth link => [(link.device, "Web Bluetooth device")]
  | .relay link => [(link.endpoint, "Halo relay endpoint")]
  | .stub => []

def routeRefusal : HaloRoute → Option DeviceError
  | .stub => some .unsupported
  | route => ((routeTexts route).find? fun text => text.1.trimsToNothing).map fun text =>
      .host s!"{text.2} must not be empty"

def routeKind : HaloRoute → HaloRouteKind
  | .ble _ => .ble
  | .webBluetooth _ => .webBluetooth
  | .relay _ => .relay
  | .stub => .stub

variable (symbols : SampleSymbols)

/-- Valid samples, at most one camera pull, and no kind that moves backwards. -/
structure Acceptable (samples : List HaloSample) : Prop where
  valid : ∀ sample ∈ samples, sample.validate symbols = .ok ()
  cameras : samples.countP HaloSample.isCamera ≤ 1
  ordered : ∀ kind, ((samples.filter (·.sampleKind = kind)).map HaloSample.seq).Pairwise (· ≤ ·)

/-- What is wrong with a sample after the ones before it. -/
inductive Blames (earlier : List HaloSample) (sample : HaloSample) : DeviceError → Prop where
  | invalid {error : DeviceError} (refused : sample.validate symbols = .error error) : Blames earlier sample error
  | secondCamera (valid : sample.validate symbols = .ok ()) (camera : sample.isCamera = true)
      (taken : ∃ other ∈ earlier, other.isCamera = true) :
      Blames earlier sample (.sample "Halo routes accept at most one opt-in camera pull per session")
  | backwards (valid : sample.validate symbols = .ok ())
      (first : sample.isCamera = true → ∀ other ∈ earlier, ¬ other.isCamera = true)
      (behind : ∃ other ∈ earlier, other.sampleKind = sample.sampleKind ∧ sample.seq < other.seq) :
      Blames earlier sample (.sample s!"Halo {sample.sampleKind} sequence moved backwards")

/-- A scan knows the last number of each kind and the cameras it has passed. -/
structure Summary (earlier : List HaloSample) (scan : SampleScan) : Prop where
  last : ∀ kind, scan.lastSeq[kind]? = ((earlier.filter (·.sampleKind = kind)).map HaloSample.seq).getLast?
  cameras : scan.cameraCount = earlier.countP HaloSample.isCamera

private theorem mem_numbers {samples : List HaloSample} {kind : String} {sample : HaloSample} (member : sample ∈ samples)
    (named : sample.sampleKind = kind) : sample.seq ∈ (samples.filter (·.sampleKind = kind)).map HaloSample.seq :=
  List.mem_map_of_mem (List.mem_filter.mpr ⟨member, decide_eq_true named⟩)

section Scan
variable {symbols} {earlier : List HaloSample} {sample : HaloSample}

private theorem Acceptable.snoc (acceptable : Acceptable symbols earlier) (valid : sample.validate symbols = .ok ())
    (first : sample.isCamera = true → ∀ other ∈ earlier, ¬ other.isCamera = true)
    (ahead : ∀ other ∈ earlier, other.sampleKind = sample.sampleKind → other.seq ≤ sample.seq) :
    Acceptable symbols (earlier ++ [sample]) := by
  refine ⟨?_, ?_, ?_⟩
  · exact List.forall_mem_append.mpr ⟨acceptable.valid, List.forall_mem_singleton.mpr valid⟩
  · rw [List.countP_append, List.countP_singleton]
    have few := acceptable.cameras
    split
    · rename_i camera
      rw [List.countP_eq_zero.mpr (first camera)]
    · exact few
  · intro kind
    rw [List.filter_append, List.map_append, List.pairwise_append]
    refine ⟨acceptable.ordered kind, ?_, ?_⟩
    · by_cases same : sample.sampleKind = kind <;> simp [same]
    · intro seq inEarlier last isLast
      obtain ⟨other, member, rfl⟩ := List.mem_map.mp inEarlier
      obtain ⟨found, named⟩ := List.mem_filter.mp member
      obtain ⟨own, ownMember, rfl⟩ := List.mem_map.mp isLast
      obtain ⟨here, ownNamed⟩ := List.mem_filter.mp ownMember
      obtain rfl := List.mem_singleton.mp here
      exact ahead other found ((of_decide_eq_true named).trans (of_decide_eq_true ownNamed).symm)

private theorem Summary.snoc {scan : SampleScan} (summary : Summary earlier scan) :
    Summary (earlier ++ [sample]) ⟨scan.lastSeq.insert sample.sampleKind sample.seq,
      if sample.isCamera then scan.cameraCount + 1 else scan.cameraCount⟩ := by
  constructor
  · intro kind
    rw [OrdMap.getElem?_insert, List.filter_append, List.map_append]
    by_cases same : sample.sampleKind = kind
    · have own : [sample].filter (·.sampleKind = kind) = [sample] := List.filter_cons_of_pos (decide_eq_true same)
      rw [if_pos same, own, List.map_singleton, List.getLast?_concat]
    · have other : [sample].filter (·.sampleKind = kind) = [] := List.filter_cons_of_neg (by simpa using same)
      rw [if_neg same, other, List.map_nil, List.append_nil]
      exact summary.last kind
  · rw [List.countP_append, List.countP_singleton, ← summary.cameras]
    split <;> rfl

private theorem le_of_last {kind : String} (acceptable : Acceptable symbols earlier) {last : UInt64}
    (found : ((earlier.filter (·.sampleKind = kind)).map HaloSample.seq).getLast? = some last) :
    ∀ other ∈ earlier, other.sampleKind = kind → other.seq ≤ last := by
  intro other member named
  obtain ⟨front, split⟩ := List.getLast?_eq_some_iff.mp found
  have ordered := acceptable.ordered kind
  have listed := mem_numbers member named
  rw [split] at ordered listed
  obtain early | here := List.mem_append.mp listed
  · exact (List.pairwise_append.mp ordered).2.2 _ early _ List.mem_cons_self
  · rw [List.mem_singleton.mp here]
    exact UInt64.le_refl _

/-- One sample more is acceptable, or it is blamed. -/
theorem scanSample_cases {scan : SampleScan} (acceptable : Acceptable symbols earlier) (summary : Summary earlier scan) :
    (∃ next, scanSample symbols scan sample = .ok next ∧ Acceptable symbols (earlier ++ [sample]) ∧
      Summary (earlier ++ [sample]) next) ∨
    ∃ error, scanSample symbols scan sample = .error error ∧ Blames symbols earlier sample error := by
  unfold scanSample
  cases valid : sample.validate symbols with
  | error error => exact .inr ⟨error, rfl, .invalid valid⟩
  | ok =>
    by_cases second : sample.isCamera ∧ 1 < if sample.isCamera then scan.cameraCount + 1 else scan.cameraCount
    · right
      refine ⟨_, by simp only [Except.rejectIf, if_pos second]; rfl, .secondCamera valid second.1 ?_⟩
      have counted := second.2
      rw [if_pos second.1, summary.cameras] at counted
      exact List.countP_pos_iff.mp (by omega)
    · have first : sample.isCamera = true → ∀ other ∈ earlier, ¬ other.isCamera = true := by
        intro camera
        by_contra taken
        apply second
        have counted : earlier.countP HaloSample.isCamera ≠ 0 := fun none => taken (List.countP_eq_zero.mp none)
        rw [if_pos camera, summary.cameras]
        exact ⟨camera, by omega⟩
      by_cases behind : scan.lastSeq[sample.sampleKind]?.any (sample.seq < ·) = true
      · right
        refine ⟨_, by simp only [Except.rejectIf, if_neg second, if_pos behind]; rfl, .backwards valid first ?_⟩
        rw [summary.last] at behind
        obtain ⟨last, found, below⟩ := (Option.any_eq_true _ _).mp behind
        obtain ⟨other, member, rfl⟩ := List.mem_map.mp (List.mem_of_getLast? found)
        obtain ⟨listed, named⟩ := List.mem_filter.mp member
        exact ⟨other, listed, of_decide_eq_true named, of_decide_eq_true below⟩
      · left
        refine ⟨_, by simp only [Except.rejectIf, if_neg second, if_neg behind]; rfl, ?_, summary.snoc⟩
        apply acceptable.snoc valid first
        intro other member named
        have listed := mem_numbers member named
        rw [summary.last] at behind
        cases found : ((earlier.filter (·.sampleKind = sample.sampleKind)).map HaloSample.seq).getLast? with
        | none =>
          rw [List.getLast?_eq_none_iff.mp found] at listed
          cases listed
        | some last =>
          rw [found, Option.any_some, decide_eq_true_iff, UInt64.not_lt] at behind
          exact UInt64.le_trans (le_of_last acceptable found other member named) behind

end Scan

theorem scans : Scans (scanSample symbols) (Acceptable symbols) Summary (Blames symbols) where
  step _ acceptable summary := scanSample_cases acceptable summary
  apart := by
    intro earlier sample later error blamed acceptable
    cases blamed with
    | invalid refused => cases refused.symm.trans (acceptable.valid sample (List.mem_append_right _ List.mem_cons_self))
    | secondCamera valid camera taken =>
      obtain ⟨other, member, otherCamera⟩ := taken
      have first : 0 < earlier.countP HaloSample.isCamera := List.countP_pos_iff.mpr ⟨other, member, otherCamera⟩
      have few := acceptable.cameras
      rw [List.countP_append, List.countP_cons_of_pos camera] at few
      omega
    | backwards valid _ behind =>
      obtain ⟨other, member, named, below⟩ := behind
      have ordered := acceptable.ordered sample.sampleKind
      have own : (sample :: later).filter (·.sampleKind = sample.sampleKind) =
          sample :: later.filter (·.sampleKind = sample.sampleKind) := List.filter_cons_of_pos (decide_eq_true rfl)
      rw [List.filter_append, own, List.map_append, List.map_cons] at ordered
      have ahead := (List.pairwise_append.mp ordered).2.2 _ (mem_numbers member named) _ List.mem_cons_self
      exact UInt64.not_lt.mpr ahead below

private theorem acceptable_nil : Acceptable symbols [] := ⟨List.forall_mem_nil _, Nat.zero_le _, fun _ => List.Pairwise.nil⟩

private theorem summary_nil : Summary [] ⟨∅, 0⟩ := ⟨fun _ => ExtTreeMap.getElem?_empty, rfl⟩

private theorem validateSamples_ok_iff (samples : List HaloSample) :
    validateSamples symbols samples = .ok () ↔ Acceptable symbols samples := by
  rw [← (scans symbols).ok_iff (acceptable_nil symbols) summary_nil samples, validateSamples, Except.bind_eq_ok]
  exact exists_congr fun last => and_iff_left rfl

private theorem validateSamples_error {samples : List HaloSample} {error : DeviceError}
    (refused : validateSamples symbols samples = .error error) :
    Scans.FirstOffender (Acceptable symbols) (Blames symbols) samples error := by
  apply (scans symbols).error_offender (acceptable_nil symbols) summary_nil
  unfold validateSamples at refused
  cases scanned : samples.foldlM (scanSample symbols) ⟨∅, 0⟩ with
  | ok last =>
    rw [scanned] at refused
    cases refused
  | error found =>
    rw [scanned] at refused
    exact congrArg Except.error (Except.error.inj refused)

/-- Opening is the check of the texts and then the scan of the samples. -/
theorem openSession_eq (provider : HaloProvider) : provider.openSession symbols =
    match routeRefusal provider.route with
    | some error => .error error
    | none => (validateSamples symbols (routeSamples provider.route)).map fun _ =>
        .new (routeKind provider.route) (routeSamples provider.route) provider.profile provider.frameBudget := by
  unfold HaloProvider.openSession
  cases provider.route with
  | stub => rfl
  | ble link =>
    cases adapter : link.adapter.trimsToNothing <;> cases device : link.device.trimsToNothing <;>
      simp only [BlueZLink.openSamples, requireText, Except.rejectIf, routeRefusal, routeTexts, List.find?_cons, adapter,
        device] <;> rfl
  | webBluetooth link =>
    cases device : link.device.trimsToNothing <;>
      simp only [WebBluetoothLink.openSamples, requireText, Except.rejectIf, routeRefusal, routeTexts, List.find?_cons,
        device] <;> rfl
  | relay link =>
    cases endpoint : link.endpoint.trimsToNothing <;>
      simp only [RelayLink.openSamples, requireText, Except.rejectIf, routeRefusal, routeTexts, List.find?_cons,
        endpoint] <;> rfl

/-- A route opens exactly when its texts are filled and its samples are acceptable, and
then with just these; any other is refused for its first empty text or its first offender. -/
theorem open_refuses_first_offender (symbols : SampleSymbols) (provider : HaloProvider) :
    (∀ session, provider.openSession symbols = .ok session ↔ routeRefusal provider.route = none ∧
      Acceptable symbols (routeSamples provider.route) ∧
        session = .new (routeKind provider.route) (routeSamples provider.route) provider.profile provider.frameBudget) ∧
    ∀ error, provider.openSession symbols = .error error → routeRefusal provider.route = some error ∨
      routeRefusal provider.route = none ∧
        Scans.FirstOffender (Acceptable symbols) (Blames symbols) (routeSamples provider.route) error := by
  rw [openSession_eq]
  cases routeRefusal provider.route with
  | some refusal =>
    refine ⟨fun session => iff_of_false (by intro opened; cases opened) (by intro all; cases all.1), ?_⟩
    intro error refused
    exact .inl (congrArg some (Except.error.inj refused))
  | none =>
    cases checked : validateSamples symbols (routeSamples provider.route) with
    | ok =>
      have acceptable := (validateSamples_ok_iff symbols _).mp checked
      refine ⟨?_, by intro error refused; cases refused⟩
      intro session
      constructor
      · intro opened
        exact ⟨rfl, acceptable, (Except.ok.inj opened).symm⟩
      · intro all
        exact congrArg Except.ok all.2.2.symm
    | error found =>
      have offender := validateSamples_error symbols checked
      refine ⟨fun session => iff_of_false (by intro opened; cases opened) ?_, ?_⟩
      · intro all
        cases checked.symm.trans ((validateSamples_ok_iff symbols _).mpr all.2.1)
      · intro error refused
        exact .inr ⟨rfl, Except.error.inj refused ▸ offender⟩

end StreamHost.Proofs.HaloOpening
