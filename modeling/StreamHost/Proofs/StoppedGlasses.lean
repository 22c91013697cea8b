import StreamHost.Proofs.KeyedSessions

/-! What a VITURE session does between a stop and the next start. Neither `poll`
nor `invoke` looks at the started flag, so the physical session behind it, closed
by the stop, is still polled and sent commands. -/

namespace StreamHost.Proofs.StoppedGlasses
open Viture KeyedSessions

variable {ρ : Type}

abbrev Glasses (ρ : Type) := VitureSession (ρ × List PhysicalCall)

abbrev GlassesEvent (ρ : Type) := SessionEvent (Glasses ρ)

def Hardware : VitureSessionRoute ρ → Prop
  | .carina _ _ | .legacyImu _ _ _ => True
  | .scripted _ _ => False

def calls (session : Glasses ρ) : List PhysicalCall := session.route.physicalCalls

def Stops (event : GlassesEvent ρ) : Prop := event.input = .stop ∧ event.output = .done (.ok ())

def Starts (event : GlassesEvent ρ) : Prop := event.input = .start ∧ event.output = .done (.ok ())

/-- The law holds of all events between a stop that returned Ok and the next start that returned Ok. -/
def EveryStopped (trace : List (GlassesEvent ρ)) (law : GlassesEvent ρ → Prop) : Prop :=
  ∀ past stop between event later, trace = past ++ stop :: (between ++ event :: later) → Stops stop →
    (∀ other ∈ between, ¬ Starts other) → law event

/-- No sample is emitted, and the physical session is neither polled nor sent a command. -/
structure Silent (event : GlassesEvent ρ) : Prop where
  noSample : ∀ sample, event.output ≠ .sample (.ok (some sample))
  noCalls : ∃ made, calls event.after = calls event.before ++ made ∧ ∀ call ∈ made, call = .start ∨ call = .close

private theorem Silent.harmless {event : GlassesEvent ρ} (silent : Silent event) {made : List PhysicalCall}
    (grown : calls event.after = calls event.before ++ made) : ∀ call ∈ made, call = .start ∨ call = .close := by
  obtain ⟨others, same, harmless⟩ := silent.noCalls
  obtain rfl : made = others := List.append_cancel_left (grown.symm.trans same)
  exact harmless

/-- A stop closes the physical session, and what follows it up to a start is silent. -/
structure SilentWhileStopped (trace : List (GlassesEvent ρ)) : Prop where
  closed : ∀ event ∈ trace, Stops event → calls event.after = calls event.before ++ [.close]
  silent : EveryStopped trace Silent

/-- The call gets through to the device on this route. -/
inductive GetsThrough (externals : VitureExternals) : SessionCall → VitureSessionRoute ρ → Prop where
  | pose (device : ρ) (seq : UInt64) : GetsThrough externals (.poll viturePoseSampleKind) (.carina device seq)
  | legacyPose (device : ρ) (orientation : Coordinates) (seq : UInt64) {sample : XrPoseSample}
      (built : externals.poseNew seq none orientation (sampleTimeNs seq) 0 3 .limited = .ok sample) :
      GetsThrough externals (.poll viturePoseSampleKind) (.legacyImu device orientation seq)
  | command (route : VitureSessionRoute ρ) {request : EffectRequest} {packet : VitureControlPacket}
      {command : PhysicalDeviceCommand}
      (authorized : VitureSession.descriptor.authorize externals.debugLen request = .ok ())
      (encoded : encodeVitureCommand externals.access externals.rateNew request.payload = .ok packet)
      (physical : packet.physicalCommand = some command) : GetsThrough externals (.invoke request) route

private theorem GetsThrough.pose_kind {externals : VitureExternals} {kind : String} {route : VitureSessionRoute ρ}
    (through : GetsThrough externals (.poll kind) route) : kind = viturePoseSampleKind := by
  cases through <;> rfl

private theorem getsThrough_invoke_iff {externals : VitureExternals} {request : EffectRequest} {route : VitureSessionRoute ρ} :
    GetsThrough externals (.invoke request) route ↔
      VitureSession.descriptor.authorize externals.debugLen request = .ok () ∧
        ∃ packet, encodeVitureCommand externals.access externals.rateNew request.payload = .ok packet ∧
          packet.physicalCommand ≠ none := by
  constructor
  · rintro (_ | _ | ⟨_, authorized, encoded, physical⟩)
    exact ⟨authorized, _, encoded, by rw [physical]; exact nofun⟩
  · rintro ⟨authorized, packet, encoded, physical⟩
    obtain ⟨command, physical⟩ := Option.ne_none_iff_exists'.mp physical
    exact .command route authorized encoded physical

/-- The physical session has got these calls since, and the route is still one with hardware. -/
structure Makes (made : List PhysicalCall) (before after : VitureSessionRoute (ρ × List PhysicalCall)) : Prop where
  calls : after.physicalCalls = before.physicalCalls ++ made
  hardware : Hardware after

section Session
variable {externals : VitureExternals} {physical : DevicePhysicalSession ρ} {session : Glasses ρ}

private theorem invoke_route {request : EffectRequest} {packet : VitureControlPacket}
    (authorized : VitureSession.descriptor.authorize externals.debugLen request = .ok ())
    (encoded : encodeVitureCommand externals.access externals.rateNew request.payload = .ok packet) :
    (session.invoke externals physical.logged request).2.route = (applyControlPacket physical.logged session.route packet).2 := by
  unfold VitureSession.invoke
  simp only [authorized, encoded]
  rcases applyControlPacket physical.logged session.route packet with ⟨error | _, after⟩ <;> rfl

private theorem invoke_refused {request : EffectRequest}
    (unfit : ¬ ∃ packet, VitureSession.descriptor.authorize externals.debugLen request = .ok () ∧
      encodeVitureCommand externals.access externals.rateNew request.payload = .ok packet) :
    (session.invoke externals physical.logged request).2 = session := by
  unfold VitureSession.invoke
  split
  · rfl
  split
  · rfl
  exact absurd ⟨_, ‹_›, ‹_›⟩ unfit

variable (externals physical) in
private theorem poll_carina (profile : DeviceProfile) (device : ρ × List PhysicalCall) (seq : UInt64)
    (sent : List VitureControlPacket) (started : Bool) :
    ∃ later, (VitureSession.poll externals physical.logged viturePoseSampleKind
      ⟨profile, .carina device seq, sent, started⟩).2.route = .carina (physical.logged.poll device).2 later := by
  unfold VitureSession.poll
  rw [if_neg fun unknown => unknown.1 rfl]
  simp only
  rw [if_neg (by decide)]
  rcases physical.logged.poll device with ⟨error | answer, after⟩
  · exact ⟨seq, rfl⟩
  rcases answer with _ | ⟨pose, tracked⟩ | _
  · exact ⟨seq, rfl⟩
  · simp only
    split
    · exact ⟨seq, rfl⟩
    · exact ⟨seq.saturatingAdd 1, rfl⟩
  · exact ⟨seq, rfl⟩

variable (externals physical) in
private theorem poll_legacyImu (profile : DeviceProfile) (device : ρ × List PhysicalCall) (orientation : Coordinates)
    (seq : UInt64) (sent : List VitureControlPacket) (started : Bool) :
    VitureSession.poll externals physical.logged viturePoseSampleKind
        ⟨profile, .legacyImu device orientation seq, sent, started⟩ =
      match externals.poseNew seq none orientation (sampleTimeNs seq) 0 3 .limited with
      | .error error => (.error (.sample error), ⟨profile, .legacyImu device orientation seq, sent, started⟩)
      | .ok sample => (.ok (some sample.expr),
          ⟨profile, .legacyImu device orientation (seq.saturatingAdd 1), sent, started⟩) := by
  unfold VitureSession.poll
  rw [if_neg fun unknown => unknown.1 rfl]
  simp only
  rw [if_neg (by decide)]
  cases externals.poseNew seq none orientation (sampleTimeNs seq) 0 3 .limited <;> rfl

variable (hardware : Hardware session.route)
include hardware

theorem Makes.none : Makes [] session.route session.route := ⟨(List.append_nil _).symm, hardware⟩

private theorem onSession_makes {α : Type} (call : ρ × List PhysicalCall → Except VitureError α × (ρ × List PhysicalCall))
    (made : PhysicalCall) (logs : ∀ state, (call state).2.2 = state.2 ++ [made]) :
    ∃ result after, session.route.onSession call = some (result, after) ∧ Makes [made] session.route after := by
  cases route : session.route with
  | carina device seq => exact ⟨_, _, rfl, logs device, trivial⟩
  | legacyImu device orientation seq => exact ⟨_, _, rfl, logs device, trivial⟩
  | scripted => rw [route] at hardware; cases hardware

private theorem start_makes : Makes [.start] session.route (session.start physical.logged).2.route := by
  obtain ⟨result, after, same, makes⟩ := onSession_makes hardware physical.logged.start .start fun _ => rfl
  unfold VitureSession.start
  rw [same]
  cases result <;> exact makes

private theorem stop_makes : Makes [.close] session.route (session.stop physical.logged).2.route := by
  obtain ⟨result, after, same, makes⟩ := onSession_makes hardware physical.logged.close .close fun _ => rfl
  unfold VitureSession.stop
  rw [same]
  cases result <;> exact makes

variable (physical) in
private theorem applyControlPacket_makes (packet : VitureControlPacket) :
    Makes (packet.physicalCommand.map .send).toList session.route
      (applyControlPacket physical.logged session.route packet).2 := by
  unfold applyControlPacket
  cases packet.physicalCommand with
  | none => exact .none hardware
  | some command =>
    obtain ⟨result, after, same, makes⟩ :=
      onSession_makes hardware (physical.logged.send command) (.send command) fun _ => rfl
    simp only [same]
    exact makes

/-- An invocation sends the device the command of its packet, or nothing. -/
theorem invoke_makes (request : EffectRequest) :
    ∃ made, Makes made session.route (session.invoke externals physical.logged request).2.route ∧
      ((∃ command, made = [.send command]) ∧ GetsThrough externals (.invoke request) session.route ∨
        made = [] ∧ ¬ GetsThrough externals (.invoke request) session.route) := by
  rw [getsThrough_invoke_iff]
  by_cases fit : ∃ packet, VitureSession.descriptor.authorize externals.debugLen request = .ok () ∧
      encodeVitureCommand externals.access externals.rateNew request.payload = .ok packet
  · obtain ⟨packet, authorized, encoded⟩ := fit
    refine ⟨(packet.physicalCommand.map .send).toList, ?_, ?_⟩
    · rw [invoke_route authorized encoded]
      exact applyControlPacket_makes physical hardware packet
    · cases physicalCommand : packet.physicalCommand with
      | none =>
        refine .inr ⟨rfl, ?_⟩
        rintro ⟨_, other, again, physical⟩
        cases encoded.symm.trans again
        exact physical physicalCommand
      | some command => exact .inl ⟨⟨command, rfl⟩, authorized, packet, encoded, by rw [physicalCommand]; exact nofun⟩
  · rw [invoke_refused fit]
    refine ⟨[], .none hardware, .inr ⟨rfl, ?_⟩⟩
    rintro ⟨authorized, packet, encoded, _⟩
    exact fit ⟨packet, authorized, encoded⟩

theorem poll_idle {kind : String} (other : kind ≠ viturePoseSampleKind) :
    session.poll externals physical.logged kind = (.ok none, session) := by
  unfold VitureSession.poll
  split
  · rfl
  rename_i known
  have camera : kind = vitureCameraSampleKind := by
    by_contra camera
    exact known ⟨other, camera⟩
  split
  · exact if_pos camera
  · exact if_pos camera
  · rename_i scripted
    rw [scripted] at hardware
    cases hardware

/-- A poll reaches the device or emits a sample, or it does neither. -/
theorem poll_makes (kind : String) :
    ∃ made, Makes made session.route (session.poll externals physical.logged kind).2.route ∧
      ((made = [.poll] ∨ ∃ sample, (session.poll externals physical.logged kind).1 = .ok (some sample)) ∧
          GetsThrough externals (.poll kind) session.route ∨
        (made = [] ∧ ∀ sample, (session.poll externals physical.logged kind).1 ≠ .ok (some sample)) ∧
          ¬ GetsThrough externals (.poll kind) session.route) := by
  by_cases pose : kind = viturePoseSampleKind
  · subst pose
    rcases session with ⟨profile, route, sent, started⟩
    cases route with
    | scripted => cases hardware
    | carina device seq =>
      refine ⟨[.poll], ?_, .inl ⟨.inl rfl, .pose device seq⟩⟩
      obtain ⟨later, same⟩ := poll_carina externals physical profile device seq sent started
      rw [same]
      exact ⟨rfl, trivial⟩
    | legacyImu device orientation seq =>
      rw [poll_legacyImu]
      cases built : externals.poseNew seq none orientation (sampleTimeNs seq) 0 3 .limited with
      | error error =>
        refine ⟨[], ⟨(List.append_nil _).symm, trivial⟩, .inr ⟨⟨rfl, nofun⟩, ?_⟩⟩
        rintro (_ | ⟨_, _, _, accepted⟩)
        cases built.symm.trans accepted
      | ok sample =>
        exact ⟨[], ⟨(List.append_nil _).symm, trivial⟩, .inl ⟨.inr ⟨_, rfl⟩, .legacyPose device orientation seq built⟩⟩
  · rw [poll_idle hardware pose]
    exact ⟨[], .none hardware, .inr ⟨⟨rfl, nofun⟩, fun through => pose through.pose_kind⟩⟩

private theorem step_hardware (call : SessionCall) :
    Hardware ((VitureSession.session externals physical.logged).machine.step session call).2.route := by
  cases call with
  | start => exact (start_makes hardware).hardware
  | poll kind =>
    obtain ⟨_, makes, _⟩ := poll_makes hardware kind
    exact makes.hardware
  | stop => exact (stop_makes hardware).hardware
  | invoke request =>
    obtain ⟨_, makes, _⟩ := invoke_makes hardware request
    exact makes.hardware

/-- Silence fails exactly when the call gets through. -/
theorem event_silent_iff (call : SessionCall) :
    Silent ((VitureSession.session externals physical.logged).machine.event session call) ↔
      ¬ GetsThrough externals call session.route := by
  cases call with
  | start =>
    refine iff_of_true ⟨nofun, _, (start_makes hardware).calls, ?_⟩ nofun
    exact fun call member => .inl (List.mem_singleton.mp member)
  | stop =>
    refine iff_of_true ⟨nofun, _, (stop_makes hardware).calls, ?_⟩ nofun
    exact fun call member => .inr (List.mem_singleton.mp member)
  | poll kind =>
    obtain ⟨made, makes, ⟨loud, through⟩ | ⟨⟨rfl, quiet⟩, idle⟩⟩ := poll_makes hardware kind
    · refine iff_of_false (fun silent => ?_) (not_not_intro through)
      rcases loud with rfl | ⟨sample, emitted⟩
      · rcases silent.harmless makes.calls .poll List.mem_cons_self with wrong | wrong <;> cases wrong
      · exact silent.noSample sample (congrArg SessionAnswer.sample emitted)
    · refine iff_of_true ⟨fun sample emitted => quiet sample (SessionAnswer.sample.inj emitted), [], makes.calls, nofun⟩ idle
  | invoke request =>
    obtain ⟨made, makes, ⟨⟨command, rfl⟩, through⟩ | ⟨rfl, idle⟩⟩ := invoke_makes hardware request
    · refine iff_of_false (fun silent => ?_) (not_not_intro through)
      rcases silent.harmless makes.calls _ List.mem_cons_self with wrong | wrong <;> cases wrong
    · exact iff_of_true ⟨nofun, [], makes.calls, nofun⟩ idle

/-- What holds of every event on hardware: a stop closes, and silence fails exactly when the call gets through. -/
structure Law (externals : VitureExternals) (event : GlassesEvent ρ) : Prop where
  closes : Stops event → calls event.after = calls event.before ++ [.close]
  silent : Silent event ↔ ¬ GetsThrough externals event.input event.before.route

private theorem event_law (call : SessionCall) :
    Law externals ((VitureSession.session externals physical.logged).machine.event session call) := by
  refine ⟨?_, event_silent_iff hardware call⟩
  rintro ⟨stops, _⟩
  obtain rfl : call = .stop := stops
  exact (stop_makes hardware).calls

variable (externals physical) in
private theorem trace_law (inputs : List SessionCall) :
    ∀ event ∈ (VitureSession.session externals physical.logged).machine.trace session inputs, Law externals event :=
  Machine.trace_forall _ (fun state => Hardware state.route) (Law externals)
    (fun _ call hardware => step_hardware hardware call) (fun _ call hardware => event_law hardware call) hardware inputs

variable (externals physical session) in
/-- In a run on hardware, a stopped session is silent exactly as long as no call gets through to the device. -/
theorem stopped_silent_iff (inputs : List SessionCall) :
    SilentWhileStopped ((VitureSession.session externals physical.logged).machine.trace session inputs) ↔
      EveryStopped ((VitureSession.session externals physical.logged).machine.trace session inputs)
        fun event => ¬ GetsThrough externals event.input event.before.route := by
  have law := trace_law externals physical hardware inputs
  have last {past between later : List (GlassesEvent ρ)} {stop event : GlassesEvent ρ} :
      event ∈ past ++ stop :: (between ++ event :: later) := by simp
  constructor
  · intro silent past stop between event later split stops paused
    exact (law event (split ▸ last)).silent.mp (silent.silent past stop between event later split stops paused)
  · intro idle
    refine ⟨fun event member => (law event member).closes, ?_⟩
    intro past stop between event later split stops paused
    exact (law event (split ▸ last)).silent.mpr (idle past stop between event later split stops paused)

end Session

/-- Started, stopped, and polled for a pose: the closed device is polled. -/
theorem stopped_glasses_polled :
    ¬ ∀ (ρ : Type) (externals : VitureExternals) (physical : DevicePhysicalSession ρ) (session : Glasses ρ)
      (inputs : List SessionCall), Hardware session.route →
        SilentWhileStopped ((VitureSession.session externals physical.logged).machine.trace session inputs) := by
  intro always
  let machine := (VitureSession.session plainViture willingGlasses.logged).machine
  let started : Glasses Unit := (machine.step carinaGlasses .start).2
  let stopped : Glasses Unit := (machine.step started .stop).2
  have held := always Unit plainViture willingGlasses carinaGlasses [.start, .stop, .poll viturePoseSampleKind] trivial
  have silent : Silent (machine.event stopped (.poll viturePoseSampleKind)) :=
    held.silent [machine.event carinaGlasses .start] (machine.event started .stop) [] _ [] rfl ⟨rfl, rfl⟩
      fun _ member => absurd member List.not_mem_nil
  have through : GetsThrough plainViture (.poll viturePoseSampleKind) stopped.route := .pose _ _
  have hardware : Hardware stopped.route := trivial
  exact (event_silent_iff hardware _).mp silent through

theorem stopped_carina_silent_iff :
    SilentWhileStopped ((VitureSession.session plainViture willingGlasses.logged).machine.trace carinaGlasses
        [.start, .stop, .poll vitureCameraSampleKind]) ↔
      EveryStopped ((VitureSession.session plainViture willingGlasses.logged).machine.trace carinaGlasses
        [.start, .stop, .poll vitureCameraSampleKind])
        fun event => ¬ GetsThrough plainViture event.input event.before.route :=
  stopped_silent_iff plainViture willingGlasses carinaGlasses trivial [.start, .stop, .poll vitureCameraSampleKind]

end StreamHost.Proofs.StoppedGlasses
