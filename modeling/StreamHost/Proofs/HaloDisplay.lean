import StreamHost.Halo.Provider
import StreamHost.Proofs.LuaFrames

/-! The display of a Halo session: whatever a caller does, the glyphs on the
glasses are the glyphs the session has committed, and no frame is cut short. -/

namespace StreamHost.Halo
open Std

/-- A display that starts blank takes over the cells of every packet in turn. -/
def shown (packets : List HaloFramePacket) : CellKey → Option Char :=
  packets.foldl (fun display packet => packet.diff.cells.foldl showCell display) fun _ => none

private theorem shown_snoc (packets : List HaloFramePacket) (packet : HaloFramePacket) :
    shown (packets ++ [packet]) = packet.diff.cells.foldl showCell (shown packets) := by
  rw [shown, List.foldl_append]
  rfl

/-- The link bytes of a packet are counted exactly and stay within the budget. -/
structure HaloFramePacket.Counted (budget : LuaFrameBudget) (packet : HaloFramePacket) : Prop where
  exact : packet.lua.size = packet.diff.bytes.toNat
  within : packet.diff.bytes ≤ budget.maxBytesPerTick

def byteCountMismatch : DeviceError := .host "Halo Lua frame byte count mismatch"

namespace HaloSession
variable (externals : HaloExternals)

def schedule (session : HaloSession) (request : EffectRequest) : Result FrameDiff × LuaFrameScheduler :=
  session.scheduler.schedule externals.fromScene request.payload session.frameBudget

/-- A refusal comes from the authority, from a stopped session or from the scheduler. -/
inductive Refuses (session : HaloSession) (request : EffectRequest) : DeviceError → Prop where
  | authority {error} (unfit : descriptor.authorize externals.debugLen request = .error error) :
      Refuses session request error
  | stopped {error} (idle : session.requireStarted = .error error) : Refuses session request error
  | scheduler {cause} (failed : (session.schedule externals request).1 = .error cause) :
      Refuses session request (.host (externals.errorText cause))

/-- All an invocation can do: be refused and change nothing, or send one packet
that takes the display to what is committed. -/
inductive Outcome (session : HaloSession) (request : EffectRequest) :
    DeviceResult EffectReceipt × HaloSession → Prop where
  | refused {error} (refuses : Refuses externals session request error) :
      Outcome session request (.error error, session)
  | sent (diff : FrameDiff) (committed : LuaFrameState)
      (follows : committed.glyphs = diff.cells.foldl showCell session.scheduler.committed.glyphs)
      (counted : HaloFramePacket.Counted session.frameBudget ⟨session.route, diff, encodeLuaCells diff.cells⟩) :
      Outcome session request (.ok ⟨descriptor.receipt, descriptor.id, UInt64.ofNat (session.sent.length + 1)⟩,
        { session with
          scheduler := ⟨committed⟩
          sent := session.sent ++ [⟨session.route, diff, encodeLuaCells diff.cells⟩] })

theorem invoke_outcome (session : HaloSession) (request : EffectRequest) :
    Outcome externals session request (session.invoke externals request) := by
  unfold invoke
  split
  · exact .refused (.authority ‹_›)
  split
  · exact .refused (.stopped ‹_›)
  generalize scheduled : session.scheduler.schedule externals.fromScene request.payload session.frameBudget = result
  have schedules := schedules externals.fromScene request.payload session.frameBudget session.scheduler
  rw [scheduled] at schedules
  cases schedules with
  | refused cause => exact .refused (.scheduler (congrArg Prod.fst scheduled))
  | emitted diff committed follows counted within =>
    have exact : diff.bytes.toNat = (encodeLuaCells diff.cells).size := counted.trans (encode_size _).symm
    simp only [exact, ne_eq, not_true_eq_false, if_false, List.length_append, List.length_singleton]
    exact .sent diff committed follows ⟨exact.symm, within⟩

/-- The miscount branch of an invocation is never taken. -/
theorem schedule_counts {session : HaloSession} {request : EffectRequest} {diff : FrameDiff}
    (scheduled : (session.schedule externals request).1 = .ok diff) :
    diff.bytes.toNat = (encodeLuaCells diff.cells).size := by
  have schedules := schedules externals.fromScene request.payload session.frameBudget session.scheduler
  rw [schedule] at scheduled
  generalize session.scheduler.schedule externals.fromScene request.payload session.frameBudget = result at *
  cases schedules with
  | refused => cases scheduled
  | emitted diff committed follows counted within =>
    cases scheduled
    exact counted.trans (encode_size _).symm

/-- A miscount is only ever reported in the words of the scheduler's own errors. -/
theorem Refuses.mismatch {externals : HaloExternals} {session : HaloSession} {request : EffectRequest}
    (refuses : Refuses externals session request byteCountMismatch) :
    ∃ cause, (session.schedule externals request).1 = .error cause ∧
      .host (externals.errorText cause) = byteCountMismatch := by
  generalize named : byteCountMismatch = error at refuses
  cases refuses with
  | authority unfit =>
    obtain ⟨message, contract⟩ := descriptor.authorize_fails externals.debugLen request _ unfit
    cases named.trans contract
  | stopped idle =>
    rw [requireStarted] at idle
    split at idle
    · cases idle
    · exact absurd (DeviceError.host.inj (named.trans (Except.error.inj idle).symm)) (by decide)
  | scheduler failed => exact ⟨_, failed, rfl⟩

abbrev machine : Machine HaloSession SessionCall SessionAnswer := (session externals).machine

/-- What every run keeps: the display follows what is committed, packets are
counted, and acknowledged frames are numbered as they were sent. -/
structure Follows (budget : LuaFrameBudget) (past : List (SessionEvent HaloSession)) (session : HaloSession) : Prop where
  budgeted : session.frameBudget = budget
  displayed : shown session.sent = session.scheduler.committed.glyphs
  counted : ∀ packet ∈ session.sent, packet.Counted budget
  numbered : (acknowledged past).map EffectReceipt.sequence = (List.range' 1 session.sent.length).map UInt64.ofNat

private theorem invoke_error {session : HaloSession} {request : EffectRequest} {error : DeviceError}
    (failed : (session.invoke externals request).1 = .error error) :
    Refuses externals session request error ∧ (session.invoke externals request).2 = session := by
  have outcome := invoke_outcome externals session request
  generalize session.invoke externals request = result at *
  cases outcome with
  | refused refuses =>
    cases failed
    exact ⟨refuses, rfl⟩
  | sent => cases failed

/-- A started session shows every accepted card under a budget that fits one cell. -/
theorem invoke_acknowledged {session : HaloSession} {request : EffectRequest} {target : LuaFrameState}
    (authorized : descriptor.authorize externals.debugLen request = .ok ()) (started : session.started = true)
    (accepted : LuaFrameState.fromGlance externals.fromScene request.payload = .ok target)
    (room : 43 ≤ session.frameBudget.maxBytesPerTick.toNat) :
    ∃ receipt, (session.invoke externals request).1 = .ok receipt := by
  have outcome := invoke_outcome externals session request
  generalize session.invoke externals request = result at *
  cases outcome with
  | sent => exact ⟨_, rfl⟩
  | refused refuses =>
    cases refuses with
    | authority unfit => cases authorized.symm.trans unfit
    | stopped idle =>
      rw [requireStarted, if_pos started] at idle
      cases idle
    | scheduler failed =>
      obtain ⟨diff, progressed⟩ := schedule_progresses accepted room
      cases progressed.symm.trans failed

theorem invoke_frame (session : HaloSession) (request : EffectRequest) :
    (session.invoke externals request).2.started = session.started ∧
      (session.invoke externals request).2.frameBudget = session.frameBudget := by
  have outcome := invoke_outcome externals session request
  generalize session.invoke externals request = result at *
  cases outcome with
  | refused | sent => exact ⟨rfl, rfl⟩

theorem poll_frame (kind : String) (session : HaloSession) :
    ∃ samples, (session.poll externals kind).2 = { session with samples } := by
  unfold poll
  split
  · exact ⟨session.samples, rfl⟩
  split
  · exact ⟨session.samples, rfl⟩
  · exact ⟨_, rfl⟩

/-- Every refusal in a run is an invocation that changed nothing. -/
theorem refused_event {state : HaloSession} {calls : List SessionCall} {event : SessionEvent HaloSession}
    {error : DeviceError} (member : event ∈ (machine externals).trace state calls)
    (failed : event.output = .receipt (.error error)) : ∃ request, event.input = .invoke request ∧
      event.before.Refuses externals request error ∧ event.after = event.before := by
  obtain ⟨earlier, later, _, same⟩ := (machine externals).mem_trace.mp member
  rw [same] at failed ⊢
  generalize event.input = call at failed ⊢
  cases call with
  | start | stop | poll _ => cases failed
  | invoke request =>
    obtain ⟨refuses, unchanged⟩ := invoke_error externals (SessionAnswer.receipt.inj failed)
    exact ⟨request, rfl, refuses, unchanged⟩

theorem Follows.invoke {budget past session} (follows : Follows budget past session) (request : EffectRequest) :
    Follows budget (past ++ [(machine externals).event session (.invoke request)])
      (session.invoke externals request).2 := by
  have answered : ((machine externals).event session (.invoke request)).output =
      .receipt (session.invoke externals request).1 := rfl
  have outcome := invoke_outcome externals session request
  generalize (machine externals).event session (.invoke request) = event at *
  generalize session.invoke externals request = result at *
  cases outcome with
  | refused =>
    refine ⟨follows.budgeted, follows.displayed, follows.counted, ?_⟩
    rw [acknowledged_silent (by rw [answered]; rfl)]
    exact follows.numbered
  | sent diff committed moved counted =>
    refine ⟨follows.budgeted, ?_, ?_, ?_⟩
    · rw [shown_snoc, follows.displayed]
      exact moved.symm
    · exact List.forall_mem_append.mpr ⟨follows.counted, List.forall_mem_singleton.mpr (follows.budgeted ▸ counted)⟩
    · rw [acknowledged_issued (SessionAnswer.acknowledged_eq_some.mpr answered), List.map_append, follows.numbered,
        List.length_append, List.length_singleton, List.range'_1_concat, List.map_append, Nat.add_comm 1]
      rfl

theorem Follows.idle {budget past session} (follows : Follows budget past session) {event : SessionEvent HaloSession}
    (silent : event.output.acknowledged = none) (samples : List HaloSample) (started : Bool) :
    Follows budget (past ++ [event]) { session with samples, started } := by
  refine ⟨follows.budgeted, follows.displayed, follows.counted, ?_⟩
  rw [acknowledged_silent silent]
  exact follows.numbered

theorem Follows.step {budget past session} (follows : Follows budget past session) (call : SessionCall) :
    Follows budget (past ++ [(machine externals).event session call]) ((machine externals).step session call).2 := by
  cases call with
  | invoke request => exact follows.invoke externals request
  | start | stop => exact follows.idle rfl session.samples _
  | poll kind =>
    obtain ⟨samples, same⟩ := session.poll_frame externals kind
    have moved : ((machine externals).step session (.poll kind)).2 = { session with samples } := same
    rw [moved]
    exact follows.idle rfl samples session.started

theorem follows_run (route : HaloRouteKind) (samples : List HaloSample) (profile : DeviceProfile)
    (budget : LuaFrameBudget) (calls : List SessionCall) :
    Follows budget ((machine externals).trace (.new route samples profile budget) calls)
      ((machine externals).final (.new route samples profile budget) calls) :=
  (machine externals).history (Follows budget) (fun _ _ call follows => follows.step externals call)
    ⟨rfl, rfl, fun _ sent => (List.not_mem_nil sent).elim, rfl⟩ calls

end HaloSession

theorem HaloProvider.openSession_new {symbols : SampleSymbols} {provider : HaloProvider} {session : HaloSession}
    (opened : provider.openSession symbols = .ok session) :
    ∃ route samples, session = .new route samples provider.profile provider.frameBudget := by
  simp only [openSession, Except.bind_eq_ok] at opened
  obtain ⟨⟨route, samples⟩, _, _, _, same⟩ := opened
  exact ⟨route, samples, (Except.ok.inj same).symm⟩

def oneScene : HaloExternals where
  debugLen _ := 5
  fromScene
    | .string "scene" => .ok { title := "Hi", metric := none, action := none, urgency := "warn", bypassBudget := false }
    | _ => .error (.eval "not a glance card")
  errorText
    | .eval message | .hostError message | .other message => message
    | .capabilityDenied capability => capability.name
  build := { map := fun _ => .nil, uint := fun _ => .nil, qsym := fun ns name => .symbol (.qualified ns name) }
  symbols := { record := .new "record", kind := .new, haloDevice := .new "halo" }

def frameRequest (payload : Expr) (key : String) : EffectRequest :=
  HaloSession.descriptor.armedRequest payload key 0 0

def localHalo : HaloProvider where
  route := .ble { adapter := "hci0", device := "halo-local", samples := [] }
  profile := noProfile
  frameBudget := ⟨64⟩

end StreamHost.Halo

namespace StreamHost.Proofs.HaloDisplay
open Halo

/-- What the glasses of one session promise after any run of calls. -/
structure DisplayFaithful (externals : HaloExternals) (budget : LuaFrameBudget)
    (run : List (SessionEvent HaloSession)) (session : HaloSession) : Prop where
  displayed : shown session.sent = session.scheduler.committed.glyphs
  counted : ∀ packet ∈ session.sent, packet.Counted budget
  matching : ∀ event ∈ run, ∀ request diff, event.input = .invoke request →
    (event.before.schedule externals request).1 = .ok diff → diff.bytes.toNat = (encodeLuaCells diff.cells).size
  mismatch : ∀ event ∈ run, event.output = .receipt (.error byteCountMismatch) → ∃ request cause,
    event.input = .invoke request ∧ (event.before.schedule externals request).1 = .error cause ∧
      .host (externals.errorText cause) = byteCountMismatch
  refused : ∀ event ∈ run, ∀ error, event.output = .receipt (.error error) →
    event.after.scheduler.committed = event.before.scheduler.committed ∧ event.after.sent = event.before.sent
  numbered : (acknowledged run).map EffectReceipt.sequence = (List.range' 1 (acknowledged run).length).map UInt64.ofNat

/-- The display of an opened session shows what is committed after every run of
calls; packets are counted exactly and within the budget, refusals change
nothing, and acknowledged frames are numbered from one. -/
theorem display_follows_session (externals : HaloExternals) (provider : HaloProvider) (session : HaloSession)
    (opened : provider.openSession externals.symbols = .ok session) (calls : List SessionCall) :
    DisplayFaithful externals provider.frameBudget ((HaloSession.machine externals).trace session calls)
      ((HaloSession.machine externals).final session calls) := by
  obtain ⟨route, samples, rfl⟩ := provider.openSession_new opened
  have follows := HaloSession.follows_run externals route samples provider.profile provider.frameBudget calls
  refine ⟨follows.displayed, follows.counted, ?_, ?_, ?_, ?_⟩
  · intro event _ request diff _ scheduled
    exact HaloSession.schedule_counts externals scheduled
  · intro event member failed
    obtain ⟨request, asked, refuses, _⟩ := HaloSession.refused_event externals member failed
    obtain ⟨cause, scheduled, text⟩ := refuses.mismatch
    exact ⟨request, cause, asked, scheduled, text⟩
  · intro event member error failed
    obtain ⟨_, _, _, unchanged⟩ := HaloSession.refused_event externals member failed
    rw [unchanged]
    exact ⟨rfl, rfl⟩
  · have count := congrArg List.length follows.numbered
    rw [List.length_map, List.length_map, List.length_range'] at count
    rw [count]
    exact follows.numbered

/-- Two frames that fit a part of the card each, and one that is no card. -/
theorem display_follows_deferred_card : ∃ session,
    DisplayFaithful oneScene ⟨64⟩ ((HaloSession.machine oneScene).trace session
      [.start, .invoke (frameRequest (.string "scene") "first"), .invoke (frameRequest (.string "scene") "second"),
        .invoke (frameRequest .nil "third"), .stop])
      ((HaloSession.machine oneScene).final session
        [.start, .invoke (frameRequest (.string "scene") "first"), .invoke (frameRequest (.string "scene") "second"),
          .invoke (frameRequest .nil "third"), .stop]) :=
  ⟨_, display_follows_session oneScene localHalo _ rfl _⟩

end StreamHost.Proofs.HaloDisplay
