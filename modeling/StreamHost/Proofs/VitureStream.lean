import StreamHost.Lib.Draining
import StreamHost.Proofs.StoppedGlasses

/-! The samples of a VITURE session over a whole run. Poses of the hardware routes are
numbered without a gap, whatever fails, stops or starts in between; scripted samples
are served from their queues. -/

namespace StreamHost.Proofs.VitureStream
open Viture

variable {ρ : Type}

/-- The number of the pose that is emitted after this many, up to the greatest word. -/
def nth (count : Nat) : UInt64 := UInt64.ofNat (min count UInt64.greatest)

private theorem toNat_nth (count : Nat) : (nth count).toNat = min count UInt64.greatest :=
  UInt64.toNat_ofNat_of_le (Nat.min_le_right _ _)

private theorem nth_succ (count : Nat) : (nth count).saturatingAdd 1 = nth (count + 1) := by
  apply UInt64.toNat_inj.mp
  rw [UInt64.toNat_saturatingAdd, toNat_nth, toNat_nth, UInt64.toNat_one]
  omega

private theorem toNat_sampleTimeNs_nth (count : Nat) :
    (sampleTimeNs (nth count)).toNat = min (count * 16666667) UInt64.greatest := by
  have greatest : UInt64.greatest = 2 ^ 64 - 1 := rfl
  have period : defaultPoseStepNs.toNat = 16666667 := rfl
  rw [sampleTimeNs, UInt64.toNat_saturatingMul, toNat_nth, period]
  omega

/-- The pose a hardware route emits: on Carina from what the device has just answered,
with its tracking state, and on the IMU route with the configured orientation. -/
inductive Poses (externals : VitureExternals) (physical : DevicePhysicalSession ρ) (seq : UInt64) :
    VitureSessionRoute ρ → XrPoseSample → Prop where
  | carina {device : ρ} {pose : Coordinates} {tracked : Bool} {sample : XrPoseSample}
      (polled : (physical.poll device).1 = .ok (some (.pose pose tracked)))
      (built : externals.poseNew seq (some (pose.take 3)) (pose.drop 3) (sampleTimeNs seq) 0 6
        (if tracked then .tracked else .lost) = .ok sample) :
      Poses externals physical seq (.carina device seq) sample
  | legacyImu {device : ρ} {orientation : Coordinates} {sample : XrPoseSample}
      (built : externals.poseNew seq none orientation (sampleTimeNs seq) 0 3 .limited = .ok sample) :
      Poses externals physical seq (.legacyImu device orientation seq) sample

/-- The route is the opened one, behind this many emitted poses. -/
def Stands (opened : VitureSessionRoute ρ) (count : Nat) (route : VitureSessionRoute ρ) : Prop :=
  match opened with
  | .carina _ _ => ∃ device, route = .carina device (nth count)
  | .legacyImu _ orientation _ => ∃ device, route = .legacyImu device orientation (nth count)
  | .scripted _ _ => False

def emitted (answer : SessionAnswer) : Option Expr :=
  match answer with
  | .sample (.ok found) => found
  | _ => none

def emits (event : SessionEvent (VitureSession ρ)) : Bool := (emitted event.output).isSome

section Hardware
variable (externals : VitureExternals) (physical : DevicePhysicalSession ρ)

abbrev machine := (VitureSession.session externals physical).machine

private theorem mapSampleError_ok {α : Type} {result : Except String α} {value : α} :
    mapSampleError result = .ok value ↔ result = .ok value := by
  cases result <;> simp [mapSampleError, Except.mapError]

theorem Stands.onSession {α : Type} {opened : VitureSessionRoute ρ} {count : Nat} {route after : VitureSessionRoute ρ}
    (stands : Stands opened count route) {call : ρ → Except VitureError α × ρ} {result : DeviceResult α}
    (called : route.onSession call = some (result, after)) : Stands opened count after := by
  cases opened with
  | scripted => cases stands
  | carina | legacyImu =>
    obtain ⟨device, rfl⟩ := stands
    cases called
    exact ⟨_, rfl⟩

theorem Stands.applyControlPacket {opened : VitureSessionRoute ρ} {count : Nat} {route : VitureSessionRoute ρ}
    (stands : Stands opened count route) (packet : VitureControlPacket) :
    Stands opened count (applyControlPacket physical route packet).2 := by
  unfold Viture.applyControlPacket
  cases packet.physicalCommand with
  | none => exact stands
  | some command =>
    simp only []
    cases called : route.onSession (physical.send command) with
    | none => exact stands
    | some result => exact stands.onSession called

/-- All a poll of a hardware route can do: emit the pose whose turn it is, or emit nothing
and leave the number as it is. -/
inductive Polls (opened : VitureSessionRoute ρ) (count : Nat) (before : VitureSessionRoute ρ) :
    DeviceResult (Option Expr) × VitureSession ρ → Prop where
  | emitted {session : VitureSession ρ} (sample : XrPoseSample) (poses : Poses externals physical (nth count) before sample)
      (stands : Stands opened (count + 1) session.route) : Polls opened count before (.ok (some sample.expr), session)
  | silent {answer : DeviceResult (Option Expr)} {session : VitureSession ρ} (nothing : ∀ expr, answer ≠ .ok (some expr))
      (stands : Stands opened count session.route) : Polls opened count before (answer, session)

private theorem poll_polls {opened : VitureSessionRoute ρ} {count : Nat} {session : VitureSession ρ}
    (stands : Stands opened count session.route) (kind : String) :
    Polls externals physical opened count session.route (session.poll externals physical kind) := by
  unfold VitureSession.poll
  split
  · exact .silent nofun stands
  obtain ⟨profile, route, sent, started⟩ := session
  cases opened with
  | scripted => cases stands
  | carina first number =>
    obtain ⟨device, rfl⟩ := stands
    simp only []
    split
    · exact .silent nofun ⟨device, rfl⟩
    cases polled : physical.poll device with
    | mk answer later =>
    cases answer with
    | error error =>
      refine .silent ?_ ⟨later, rfl⟩
      intro expr
      exact nofun
    | ok found =>
    match found with
    | none | some .other => exact .silent nofun ⟨later, rfl⟩
    | some (.pose pose tracked) =>
      simp only []
      cases built : carinaPoseSample externals (nth count) 0 pose (if tracked then .tracked else .lost) with
      | error error => exact .silent nofun ⟨later, rfl⟩
      | ok sample =>
        rw [carinaPoseSample, mapSampleError_ok] at built
        exact .emitted sample (.carina (congrArg Prod.fst polled) built) ⟨later, congrArg _ (nth_succ count)⟩
  | legacyImu first orientation number =>
    obtain ⟨device, rfl⟩ := stands
    simp only []
    split
    · exact .silent nofun ⟨device, rfl⟩
    cases built : mapSampleError (externals.poseNew (nth count) none orientation (sampleTimeNs (nth count)) 0 3 .limited) with
    | error error => exact .silent nofun ⟨device, rfl⟩
    | ok sample =>
      exact .emitted sample (.legacyImu (mapSampleError_ok.mp built)) ⟨device, congrArg _ (nth_succ count)⟩

private theorem start_stands {opened : VitureSessionRoute ρ} {count : Nat} {session : VitureSession ρ}
    (stands : Stands opened count session.route) : Stands opened count (session.start physical).2.route := by
  unfold VitureSession.start
  split
  · exact stands.onSession ‹_›
  · exact stands.onSession ‹_›
  · exact stands

private theorem stop_stands {opened : VitureSessionRoute ρ} {count : Nat} {session : VitureSession ρ}
    (stands : Stands opened count session.route) : Stands opened count (session.stop physical).2.route := by
  unfold VitureSession.stop
  split
  · exact stands.onSession ‹_›
  · exact stands.onSession ‹_›
  · exact stands

private theorem invoke_stands {opened : VitureSessionRoute ρ} {count : Nat} {session : VitureSession ρ}
    (stands : Stands opened count session.route) (request : EffectRequest) :
    Stands opened count (session.invoke externals physical request).2.route := by
  unfold VitureSession.invoke
  split
  · exact stands
  split
  · exact stands
  rename_i packet _
  have applied := stands.applyControlPacket physical packet
  split
  all_goals
    rename_i same
    rw [same] at applied
    exact applied

/-- One call keeps the count of emitted poses. -/
theorem step_stands {opened : VitureSessionRoute ρ} {count : Nat} {session : VitureSession ρ}
    (stands : Stands opened count session.route) (call : SessionCall) :
    let event := (machine externals physical).event session call
    (∃ sample, Poses externals physical (nth count) session.route sample ∧ emitted event.output = some sample.expr ∧
      Stands opened (count + 1) event.after.route) ∨
    (emitted event.output = none ∧ Stands opened count event.after.route) := by
  cases call with
  | start => exact .inr ⟨rfl, start_stands physical stands⟩
  | stop => exact .inr ⟨rfl, stop_stands physical stands⟩
  | invoke request => exact .inr ⟨rfl, invoke_stands externals physical stands request⟩
  | poll kind =>
    have polls := poll_polls externals physical stands kind
    have output : ((machine externals physical).event session (.poll kind)).output =
      .sample (session.poll externals physical kind).1 := rfl
    have after : ((machine externals physical).event session (.poll kind)).after =
      (session.poll externals physical kind).2 := rfl
    simp only [output, after]
    generalize session.poll externals physical kind = result at polls
    cases polls with
    | emitted sample poses further => exact .inl ⟨sample, poses, rfl, further⟩
    | silent nothing same =>
      rename_i answer _
      refine .inr ⟨?_, same⟩
      match answer with
      | .error _ | .ok none => rfl
      | .ok (some expr) => exact absurd rfl (nothing expr)

private theorem run_stands {opened : VitureSessionRoute ρ} {session : VitureSession ρ} (stands : Stands opened 0 session.route)
    (calls : List SessionCall) : Stands opened (((machine externals physical).trace session calls).countP emits)
      ((machine externals physical).final session calls).route := by
  refine (machine externals physical).history (fun past current => Stands opened (past.countP emits) current.route) ?_
    stands calls
  intro past current call here
  rw [List.countP_append, List.countP_singleton]
  obtain ⟨sample, _, answered, further⟩ | ⟨silent, same⟩ := step_stands externals physical here call
  · rw [if_pos (by rw [emits, answered]; rfl)]
    exact further
  · rw [if_neg (by rw [emits, silent]; exact Bool.false_ne_true)]
    exact same

/-- Every emitted expression of a run is the pose whose number counts those before it. -/
def Gapless (events : List (SessionEvent (VitureSession ρ))) : Prop :=
  ∀ past event later expr, events = past ++ event :: later → emitted event.output = some expr →
    ∃ sample, Poses externals physical (nth (past.countP emits)) event.before.route sample ∧ expr = sample.expr

private theorem run_gapless {opened : VitureSessionRoute ρ} {session : VitureSession ρ} (stands : Stands opened 0 session.route)
    (calls : List SessionCall) : Gapless externals physical ((machine externals physical).trace session calls) := by
  intro past event later expr split answered
  obtain ⟨earlier, rfl, same⟩ := (machine externals physical).trace_split split
  have here := run_stands externals physical stands earlier
  rw [same] at answered ⊢
  obtain ⟨sample, poses, shown, _⟩ | ⟨silent, _⟩ := step_stands externals physical here event.input
  · exact ⟨sample, poses, Option.some.inj (answered.symm.trans shown)⟩
  · cases silent.symm.trans answered

end Hardware

section Scripted
variable (externals : VitureExternals) (physical : DevicePhysicalSession ρ)

def IsScripted (session : VitureSession ρ) : Prop := ∃ samples cameraFrames, session.route = .scripted samples cameraFrames

/-- The queue of a kind, as what its polls answer. -/
def scriptedQueue (kind : String) (session : VitureSession ρ) : List Expr :=
  match session.route with
  | .scripted samples cameraFrames =>
    if kind = vitureCameraSampleKind then cameraFrames.map XrCameraFrameRef.expr
    else if kind = viturePoseSampleKind then samples.map XrPoseSample.expr else []
  | _ => []

def polls (kind : String) : SessionCall → Bool
  | .poll asked => asked = kind
  | _ => false

private theorem polls_self (kind : String) : polls kind (.poll kind) = true := decide_eq_true rfl

def pollAnswer : SessionCall → Option Expr → SessionAnswer
  | .poll _, found => .sample (.ok found)
  | _, _ => .done (.ok ())

private theorem start_scripted {session : VitureSession ρ} (script : IsScripted session) :
    (session.start physical).2.route = session.route := by
  obtain ⟨profile, route, sent, started⟩ := session
  obtain ⟨samples, cameraFrames, rfl⟩ := script
  rfl

private theorem stop_scripted {session : VitureSession ρ} (script : IsScripted session) :
    (session.stop physical).2.route = session.route := by
  obtain ⟨profile, route, sent, started⟩ := session
  obtain ⟨samples, cameraFrames, rfl⟩ := script
  rfl

private theorem invoke_scripted {session : VitureSession ρ} (script : IsScripted session) (request : EffectRequest) :
    (session.invoke externals physical request).2.route = session.route := by
  obtain ⟨profile, route, sent, started⟩ := session
  obtain ⟨samples, cameraFrames, rfl⟩ := script
  have unmoved (packet : VitureControlPacket) :
      applyControlPacket physical (.scripted samples cameraFrames) packet = (.ok (), .scripted samples cameraFrames) := by
    unfold applyControlPacket
    cases packet.physicalCommand <;> rfl
  unfold VitureSession.invoke
  split
  · rfl
  split
  · rfl
  simp only [unmoved]

/-- A poll of a scripted route takes the front of its own queue, whatever the kind. -/
theorem poll_scripted {session : VitureSession ρ} (script : IsScripted session) (kind : String) :
    (session.poll externals physical kind).1 = .ok (scriptedQueue kind session).head? ∧
      IsScripted (session.poll externals physical kind).2 ∧
        ∀ other, scriptedQueue other (session.poll externals physical kind).2 =
          if kind = other then (scriptedQueue other session).tail else scriptedQueue other session := by
  obtain ⟨profile, route, sent, started⟩ := session
  obtain ⟨samples, cameraFrames, rfl⟩ := script
  have apart : vitureCameraSampleKind ≠ viturePoseSampleKind := by decide
  unfold VitureSession.poll
  by_cases camera : kind = vitureCameraSampleKind
  · subst camera
    rw [if_neg fun unknown => unknown.2 rfl]
    refine ⟨?_, ⟨samples, cameraFrames.tail, rfl⟩, ?_⟩
    · simp [scriptedQueue]
    · intro other
      by_cases same : vitureCameraSampleKind = other
      · subst same
        simp [scriptedQueue]
      · simp [scriptedQueue, same, Ne.symm same]
  by_cases pose : kind = viturePoseSampleKind
  · subst pose
    rw [if_neg fun unknown => unknown.1 rfl]
    simp only []
    rw [if_neg apart.symm]
    refine ⟨?_, ⟨samples.tail, cameraFrames, rfl⟩, ?_⟩
    · simp [scriptedQueue, apart.symm]
    · intro other
      by_cases same : viturePoseSampleKind = other
      · subst same
        simp [scriptedQueue, apart.symm]
      · simp [scriptedQueue, same, Ne.symm same]
  · rw [if_pos ⟨pose, camera⟩]
    refine ⟨?_, ⟨samples, cameraFrames, rfl⟩, ?_⟩
    · simp [scriptedQueue, pose, camera]
    · intro other
      by_cases same : kind = other
      · subst same
        simp [scriptedQueue, pose, camera]
      · rw [if_neg same]

private theorem scripted_drains (kind : String) :
    (machine externals physical).Drains IsScripted (scriptedQueue kind) (polls kind) pollAnswer where
  keeps session call script := by
    have kept (after : VitureSession ρ) (same : after.route = session.route) : IsScripted after := by
      obtain ⟨samples, cameraFrames, route⟩ := script
      exact ⟨samples, cameraFrames, same.trans route⟩
    cases call with
    | start => exact kept _ (start_scripted physical script)
    | stop => exact kept _ (stop_scripted physical script)
    | invoke request => exact kept _ (invoke_scripted externals physical script request)
    | poll asked => exact (poll_scripted externals physical script asked).2.1
  answers {call} session script taken := by
    cases call with
    | start | stop | invoke => cases taken
    | poll asked =>
      have same : asked = kind := of_decide_eq_true taken
      rw [← same]
      exact congrArg SessionAnswer.sample (poll_scripted externals physical script asked).1
  taking {call} session script taken := by
    cases call with
    | start | stop | invoke => cases taken
    | poll asked =>
      have same : asked = kind := of_decide_eq_true taken
      exact ((poll_scripted externals physical script asked).2.2 kind).trans (if_pos same)
  keeping {call} session script kept := by
    have unmoved (after : VitureSession ρ) (same : after.route = session.route) :
        scriptedQueue kind after = scriptedQueue kind session := by rw [scriptedQueue, scriptedQueue, same]
    cases call with
    | start => exact unmoved _ (start_scripted physical script)
    | stop => exact unmoved _ (stop_scripted physical script)
    | invoke request => exact unmoved _ (invoke_scripted externals physical script request)
    | poll asked =>
      have other : asked ≠ kind := of_decide_eq_false kept
      exact ((poll_scripted externals physical script asked).2.2 kind).trans (if_neg other)

end Scripted

/-- What a session opened on a route gives its caller over every run. -/
def Streams (externals : VitureExternals) (physical : DevicePhysicalSession ρ) {π : Type} (route : VitureRoute π)
    (session : VitureSession ρ) (calls : List SessionCall) : Prop :=
  match route with
  | .carina _ | .legacyImu _ _ => Gapless externals physical ((machine externals physical).trace session calls)
  | .scripted samples cameraFrames =>
    (((machine externals physical).step ((machine externals physical).final session calls) (.poll viturePoseSampleKind)).1 =
      .sample (.ok (samples[calls.countP (polls viturePoseSampleKind)]?.map XrPoseSample.expr))) ∧
    ((machine externals physical).step ((machine externals physical).final session calls) (.poll vitureCameraSampleKind)).1 =
      .sample (.ok (cameraFrames[calls.countP (polls vitureCameraSampleKind)]?.map XrCameraFrameRef.expr))
  | .stub => False

/-- The samples of every opened session come without a gap. The n-th pose of a hardware
route is numbered n, timed by its number and built from what the device has just answered
(or from the configured orientation), however many polls fail, build no pose or ask for
another kind and however often the session is stopped and started; the n-th poll of a
scripted kind gets its n-th sample. -/
theorem viture_streams_gapless {π : Type} (externals : VitureExternals) (physical : DevicePhysicalSession ρ)
    (connect : π → Except VitureError ρ) (provider : VitureProvider π) (session : VitureSession ρ)
    (opened : provider.openSession externals connect = .ok session) (calls : List SessionCall) :
    Streams externals physical provider.route session calls ∧
      ∀ count, (nth count).toNat = min count UInt64.greatest ∧
        (sampleTimeNs (nth count)).toNat = min (count * 16666667) UInt64.greatest := by
  refine ⟨?_, fun count => ⟨toNat_nth count, toNat_sampleTimeNs_nth count⟩⟩
  obtain ⟨route, profile⟩ := provider
  cases route with
  | stub => cases opened
  | carina port =>
    obtain ⟨device, _, same⟩ := Except.bind_eq_ok.mp opened
    cases same
    have stands : Stands (.carina device 0) 0 (VitureSession.carina device profile).route := ⟨device, rfl⟩
    exact run_gapless externals physical stands calls
  | legacyImu port orientation =>
    obtain ⟨device, _, made⟩ := Except.bind_eq_ok.mp opened
    obtain ⟨_, _, same⟩ := Except.bind_eq_ok.mp made
    cases same
    have stands : Stands (.legacyImu device orientation 0) 0 (.legacyImu device orientation 0) := ⟨device, rfl⟩
    exact run_gapless externals physical stands calls
  | scripted samples cameraFrames =>
    cases opened
    have script : IsScripted (.scripted samples cameraFrames profile : VitureSession ρ) := ⟨samples, cameraFrames, rfl⟩
    have apart : viturePoseSampleKind ≠ vitureCameraSampleKind := by decide
    constructor
    · have answered := (scripted_drains externals physical viturePoseSampleKind).place _ script calls
        (.poll viturePoseSampleKind) (polls_self _)
      rw [answered, pollAnswer, scriptedQueue]
      simp [VitureSession.scripted, apart]
    · have answered := (scripted_drains externals physical vitureCameraSampleKind).place _ script calls
        (.poll vitureCameraSampleKind) (polls_self _)
      rw [answered, pollAnswer, scriptedQueue]
      simp [VitureSession.scripted]

/-- Glasses that lose track after their first pose. -/
def trackingGlasses : DevicePhysicalSession Nat where
  start count := (.ok (), count)
  poll count := (.ok (some (.pose [] (count = 0))), count + 1)
  send _ count := (.ok (), count)
  close count := (.ok (), count)

def carinaProvider : VitureProvider Unit := ⟨.carina (), noProfile⟩

theorem carina_streams_gapless : ∃ session,
    Streams KeyedSessions.plainViture trackingGlasses carinaProvider.route session
        [.poll viturePoseSampleKind, .stop, .poll vitureCameraSampleKind, .poll viturePoseSampleKind] ∧
      ∀ count, (nth count).toNat = min count UInt64.greatest ∧
        (sampleTimeNs (nth count)).toNat = min (count * 16666667) UInt64.greatest :=
  ⟨_, viture_streams_gapless KeyedSessions.plainViture trackingGlasses (fun _ => .ok 0) carinaProvider _ rfl _⟩

end StreamHost.Proofs.VitureStream
