import StreamHost.Proofs.TypedPolling

/-! Watch routes differ in their token and in what they put around a packet, and in nothing
else. Sessions with the same events answer alike whatever route they were opened on, and
what a link puts on its wire is not a command to any of them. -/

namespace StreamHost.Proofs.WatchRoutes
open Wristbridge WornEventWire TypedPolling

section Twins

def onRoute (route : WatchRouteKind) (packet : WatchCommandPacket) : WatchCommandPacket := { packet with route }

/-- Commands are checked without regard to the route. -/
theorem encode_onRoute (access : Access) (first second : WatchRouteKind) (command : Expr) :
    encodeWatchCommand access second command = (encodeWatchCommand access first command).map (onRoute second) := by
  unfold encodeWatchCommand
  simp only [bind, Except.bind]
  split
  · rfl
  split
  · rfl
  split
  · rfl
  · split <;> (split <;> rfl)

/-- The same events are left, and the same commands have been sent, each over its own route. -/
structure Twins (first second : WatchSession) : Prop where
  profile : second.profile = first.profile
  events : second.events = first.events
  forward : second.sent = first.sent.map (onRoute second.route)
  back : first.sent = second.sent.map (onRoute first.route)

private theorem twins_new (build : Build) (first second : WatchRouteKind) (events : List WornEvent) (profile : DeviceProfile) :
    Twins (.new build first events profile) (.new build second events profile) := ⟨rfl, rfl, rfl, rfl⟩

variable {debugLen : Expr → Nat} {access : Access} {first second : WatchSession}

theorem Twins.poll (twins : Twins first second) (kind : String) :
    (first.poll kind).1 = (second.poll kind).1 ∧ Twins (first.poll kind).2 (second.poll kind).2 := by
  unfold WatchSession.poll
  split
  · rw [twins.events]
    exact ⟨rfl, twins.profile, rfl, twins.forward, twins.back⟩
  · exact ⟨rfl, twins⟩

theorem Twins.invoke (twins : Twins first second) (request : EffectRequest) :
    (first.invoke debugLen access request).1 = (second.invoke debugLen access request).1 ∧
      Twins (first.invoke debugLen access request).2 (second.invoke debugLen access request).2 := by
  have alike := encode_onRoute access first.route second.route request.payload
  have returned := encode_onRoute access second.route first.route request.payload
  unfold WatchSession.invoke
  cases WatchSession.descriptor.authorize debugLen request with
  | error error => exact ⟨rfl, twins⟩
  | ok _ =>
    cases encoded : encodeWatchCommand access first.route request.payload with
    | error error =>
      rw [encoded] at alike
      rw [alike]
      exact ⟨rfl, twins⟩
    | ok packet =>
      rw [encoded] at alike
      rw [alike] at returned ⊢
      have own : packet = onRoute first.route (onRoute second.route packet) := Except.ok.inj (encoded.symm.trans returned)
      have long : second.sent.length = first.sent.length := by rw [twins.forward, List.length_map]
      refine ⟨?_, twins.profile, twins.events, ?_, ?_⟩
      · simp only [Except.map, List.length_append, long]
        rfl
      · change second.sent ++ [onRoute second.route packet] = (first.sent ++ [packet]).map (onRoute second.route)
        rw [List.map_append, ← twins.forward, List.map_singleton]
      · change first.sent ++ [packet] = (second.sent ++ [onRoute second.route packet]).map (onRoute first.route)
        rw [List.map_append, ← twins.back, List.map_singleton, ← own]

private theorem twins_simulate (debugLen : Expr → Nat) (access : Access) :
    (WatchSession.session debugLen access).machine.Simulates (WatchSession.session debugLen access).machine Twins := by
  constructor
  · intro first second call twins
    cases call with
    | start | stop => rfl
    | poll kind => exact congrArg SessionAnswer.sample (twins.poll kind).1
    | invoke request => exact congrArg SessionAnswer.receipt (twins.invoke request).1
  · intro first second call twins
    cases call with
    | start | stop => exact twins
    | poll kind => exact (twins.poll kind).2
    | invoke request => exact (twins.invoke request).2

end Twins

section Wires
variable {access : Access} {build : TextBuild}

/-- What the link of some route puts on its wire for a command. -/
inductive Serializes (access : Access) (build : TextBuild) (command : Expr) : Expr → Prop where
  | ble (link : BlueZLink) {packet : WatchCommandPacket} (serialized : link.serializeCommand access command = .ok packet) :
      Serializes access build command (packet.toExpr build.toBuild)
  | relay (link : RelayLink) {wire : Expr} (serialized : link.serializeCommand access build command = .ok wire) :
      Serializes access build command wire
  | zeppBridge (link : ZeppBridgeLink) {wire : Expr}
      (serialized : link.serializeCommand access build command = .ok wire) : Serializes access build command wire

/-- What has been sent can be carried by every link, each in its own envelope. -/
structure Carried (access : Access) (build : TextBuild) (packet : WatchCommandPacket) : Prop where
  ble : ∀ link : BlueZLink, link.serializeCommand access packet.payload = .ok (onRoute .ble packet)
  relay : ∀ link : RelayLink, link.serializeCommand access build packet.payload = .ok (build.map [
    ("kind", build.qsym "stream/wristbridge" "relay-command"),
    ("endpoint", build.text link.endpoint),
    ("packet", (onRoute .relay packet).toExpr build.toBuild)])
  zeppBridge : ∀ link : ZeppBridgeLink, link.serializeCommand access build packet.payload = .ok (build.map [
    ("kind", build.qsym "stream/wristbridge" "zepp-bridge-command"),
    ("companion", build.text link.companionId),
    ("packet", (onRoute .zeppBridge packet).toExpr build.toBuild)])

private theorem encode_payload {route : WatchRouteKind} {command : Expr} {packet : WatchCommandPacket}
    (encoded : encodeWatchCommand access route command = .ok packet) : packet.payload = command := by
  simp only [encodeWatchCommand, Except.bind_eq_ok] at encoded
  obtain ⟨_, _, _, _, found, _, validated⟩ := encoded
  cases found
  all_goals
    obtain ⟨_, _, made⟩ := Except.bind_eq_ok.mp validated
    cases made
    rfl

private theorem carried_encoded {route : WatchRouteKind} {command : Expr} {packet : WatchCommandPacket}
    (encoded : encodeWatchCommand access route command = .ok packet) : Carried access build packet := by
  have again (own : WatchRouteKind) : encodeWatchCommand access own packet.payload = .ok (onRoute own packet) := by
    rw [encode_payload encoded, encode_onRoute access route own, encoded]
    rfl
  constructor
  · intro link
    exact again .ble
  · intro link
    rw [RelayLink.serializeCommand, again .relay]
    rfl
  · intro link
    rw [ZeppBridgeLink.serializeCommand, again .zeppBridge]
    rfl

private theorem step_carried (debugLen : Expr → Nat) (session : WatchSession) (call : SessionCall)
    (carried : ∀ packet ∈ session.sent, Carried access build packet) :
    ∀ packet ∈ ((WatchSession.session debugLen access).machine.step session call).2.sent, Carried access build packet := by
  cases call with
  | start | stop => exact carried
  | poll kind =>
    change ∀ packet ∈ (session.poll kind).2.sent, _
    unfold WatchSession.poll
    split <;> exact carried
  | invoke request =>
    change ∀ packet ∈ (session.invoke debugLen access request).2.sent, _
    unfold WatchSession.invoke
    split
    · exact carried
    split
    · exact carried
    · rename_i packet encoded
      exact List.forall_mem_append.mpr ⟨carried, List.forall_mem_singleton.mpr (carried_encoded encoded)⟩

def notACommand : DeviceError := .host "expected view-wrist/command watch command"

private theorem encode_foreign (reads : access.ReadsSymbols) (writes : Writes build.toBuild) {name : String} (fields : List (String × Expr))
    (route : WatchRouteKind) :
    encodeWatchCommand access route (build.map (("kind", build.qsym "stream/wristbridge" name) :: fields)) =
      .error notACommand := by
  have read : access.fieldSym (build.map (("kind", build.qsym "stream/wristbridge" name) :: fields)) "kind" =
      some (.qualified "stream/wristbridge" name) := by
    rw [writes.map, writes.qsym, reads.fieldSym]
    rfl
  rw [encodeWatchCommand, Access.ensureKind, read, Except.rejectIf, if_pos]
  · rfl
  · intro same
    have spaces := congrArg Symbol.ns (Option.some.inj same)
    exact absurd (Option.some.inj spaces) (by decide)

/-- Nothing a link sends is a command again, on its own route or another. -/
theorem wire_refused (reads : access.ReadsSymbols) (writes : Writes build.toBuild) {command wire : Expr}
    (serializes : Serializes access build command wire) (route : WatchRouteKind) :
    encodeWatchCommand access route wire = .error notACommand := by
  cases serializes with
  | ble link serialized => exact encode_foreign reads writes _ route
  | relay link serialized =>
    obtain ⟨packet, _, made⟩ := Except.bind_eq_ok.mp serialized
    cases made
    exact encode_foreign reads writes _ route
  | zeppBridge link serialized =>
    obtain ⟨packet, _, made⟩ := Except.bind_eq_ok.mp serialized
    cases made
    exact encode_foreign reads writes _ route

private theorem invoke_wire (reads : access.ReadsSymbols) (writes : Writes build.toBuild) {request : EffectRequest} {command : Expr}
    (serializes : Serializes access build command request.payload) (debugLen : Expr → Nat) (session : WatchSession) :
    ∃ error, session.invoke debugLen access request = (.error error, session) := by
  unfold WatchSession.invoke
  cases WatchSession.descriptor.authorize debugLen request with
  | error error => exact ⟨error, rfl⟩
  | ok _ =>
    rw [wire_refused reads writes serializes]
    exact ⟨notACommand, rfl⟩

end Wires

section Routes
variable {access : Access} {build : TextBuild}

/-- The events a provider has for its sessions, whatever its route. -/
def feed (build : TextBuild) (provider : WatchProvider) : DeviceResult (List WornEvent) :=
  (routeFeed build provider.route).map Prod.snd

private theorem feed_opened {provider : WatchProvider} {session : WatchSession} (opened : provider.openSession build = .ok session) :
    ∃ route events, feed build provider = .ok events ∧ session = .new build.toBuild route events provider.profile := by
  obtain ⟨route, events, fed, made⟩ := openSession_feed opened
  refine ⟨route, events, ?_, made⟩
  rw [feed, fed]
  rfl

/-- Two providers of one profile and one feed, each enabled for a route of its own, open sessions that
answer every run alike and send the same commands, each over its own route. Every link can carry
what was sent, and what a link makes of a command no session accepts as a command again. -/
theorem routes_interchangeable (reads : access.ReadsSymbols) (writes : Writes build.toBuild) (debugLen : Expr → Nat)
    {one other : WatchProvider} (alike : other.profile = one.profile) (fed : feed build other = feed build one)
    {first second : WatchSession} (firstOpens : one.openSession build = .ok first)
    (secondOpens : other.openSession build = .ok second) (calls : List SessionCall) :
    let watch := (WatchSession.session debugLen access).machine
    watch.outputs first calls = watch.outputs second calls ∧ Twins (watch.final first calls) (watch.final second calls) ∧
      (∀ packet ∈ (watch.final first calls).sent, Carried access build packet) ∧
      ∀ command request, Serializes access build command request.payload →
        ∀ session : WatchSession, ∃ error, session.invoke debugLen access request = (.error error, session) := by
  intro watch
  obtain ⟨route, events, given, made⟩ := feed_opened firstOpens
  obtain ⟨otherRoute, otherEvents, alsoGiven, alsoMade⟩ := feed_opened secondOpens
  obtain rfl : otherEvents = events := Except.ok.inj (alsoGiven.symm.trans (fed.trans given))
  have start : Twins first second := by
    rw [made, alsoMade, alike]
    exact twins_new build.toBuild route otherRoute otherEvents one.profile
  have simulates := twins_simulate debugLen access
  refine ⟨simulates.outputs start calls, simulates.final start calls, ?_, ?_⟩
  · apply watch.final_preserves _ (step_carried debugLen)
    rw [made]
    exact List.forall_mem_nil _
  · intro command request serializes session
    exact invoke_wire reads writes serializes debugLen session

def bleWatch : WatchProvider :=
  (WatchProvider.new (.ble ⟨"hci0", "watch", [heartRate 1]⟩)).withBringupLedger (audited [(.ble, "BlueZ hci0 log")])

def relayWatch : WatchProvider :=
  (WatchProvider.new (.relay ⟨"phone.local", [heartRate 1]⟩)).withBringupLedger (audited [(.relay, "relay log")])

theorem relay_answers_like_ble : ∃ first second, bleWatch.openSession plainTextBuild = .ok first ∧
    relayWatch.openSession plainTextBuild = .ok second ∧
    let watch := (WatchSession.session (fun _ => 0) plainAccess).machine
    let calls := [SessionCall.start, .poll wornEventSampleKind]
    watch.outputs first calls = watch.outputs second calls ∧ Twins (watch.final first calls) (watch.final second calls) := by
  have bleOpens : bleWatch.openSession plainTextBuild = .ok _ := rfl
  have relayOpens : relayWatch.openSession plainTextBuild = .ok _ := rfl
  have alike : relayWatch.profile = bleWatch.profile := rfl
  have fed : feed plainTextBuild relayWatch = feed plainTextBuild bleWatch := rfl
  have both := routes_interchangeable plainAccess_reads plainBuild_writes (fun _ => 0) alike fed bleOpens relayOpens
    [.start, .poll wornEventSampleKind]
  exact ⟨_, _, rfl, rfl, both.1, both.2.1⟩

end Routes

end StreamHost.Proofs.WatchRoutes
