import StreamHost.DeviceSample
import StreamHost.Proofs.ImportedRows
import StreamHost.Wristbridge.Bringup

/-! What the bring-up ledger lets a caller open, and what the opened watch delivers.
Raw and typed polls take from one queue, and a sample that cannot be decoded is
taken like any other. -/

namespace StreamHost.Proofs.TypedPolling
open Wristbridge WornEventWire ImportedRows

section Gate

/-- What is verified by a row of audits, each naming its route and its evidence. -/
def audited (audits : List (BringupRoute × String)) : BringupLedger :=
  audits.foldl (fun ledger audit => ledger.verify audit.1 audit.2) .unverified

private theorem entry_verify (ledger : BringupLedger) (route other : BringupRoute) (proof : String) :
    (ledger.verify route proof).entry other = if route = other then .verifiedBy proof else ledger.entry other := by
  cases route <;> cases other <;> rfl

private theorem audited_snoc (audits : List (BringupRoute × String)) (audit : BringupRoute × String) :
    audited (audits ++ [audit]) = (audited audits).verify audit.1 audit.2 := List.foldl_concat _ _ _ _

/-- A route's entry is the evidence of its last audit. -/
theorem entry_audited (audits : List (BringupRoute × String)) (route : BringupRoute) :
    (audited audits).entry route = match audits.reverse.find? (·.1 = route) with
      | some audit => .verifiedBy audit.2
      | none => .unverified := by
  induction audits using List.reverseRecOn with
  | nil => cases route <;> rfl
  | append_singleton rest audit ih =>
    rw [audited_snoc, entry_verify, List.reverse_append, List.reverse_singleton, List.singleton_append]
    by_cases same : audit.1 = route
    · rw [if_pos same, List.find?_cons_of_pos (by simpa using same)]
    · rw [if_neg same, List.find?_cons_of_neg (by simpa using same), ih]

private theorem verified_audited (audits : List (BringupRoute × String)) (route : BringupRoute) :
    ((audited audits).entry route).verified = true ↔ route ∈ audits.map Prod.fst := by
  rw [entry_audited]
  cases found : audits.reverse.find? (·.1 = route) with
  | some audit =>
    have member := List.mem_reverse.mp (List.mem_of_find?_eq_some found)
    have same : audit.1 = route := by simpa using List.find?_some found
    exact iff_of_true rfl (List.mem_map.mpr ⟨audit, member, same⟩)
  | none =>
    refine iff_of_false Bool.false_ne_true ?_
    intro listed
    obtain ⟨audit, member, same⟩ := List.mem_map.mp listed
    have apart := List.find?_eq_none.mp found audit (List.mem_reverse.mpr member)
    exact apart (by simpa using same)

/-- The hardware route behind a watch route, if there is one. -/
def hardware : WatchRoute → Option BringupRoute
  | .ble _ => some .ble
  | .relay _ => some .relay
  | .zeppBridge _ => some .zepp
  | .fileImport _ | .stub => none

/-- The kind of a route and the events it has for a session. -/
def routeFeed (build : TextBuild) : WatchRoute → DeviceResult (WatchRouteKind × List WornEvent)
  | .ble link => .ok (.ble, link.events)
  | .relay link => .ok (.relay, link.events)
  | .zeppBridge link => .ok (.zeppBridge, link.events)
  | .fileImport source => (source.events build).map (.fileImport, ·)
  | .stub => .error .unsupported

def unproven (route : BringupRoute) : DeviceError :=
  .host s!"watch route {route.key} requires verified bring-up proof: {route.proofExpectation}"

/-- Every hardware route a watch route stands on has been audited. -/
def Proven (audits : List (BringupRoute × String)) (route : WatchRoute) : Prop :=
  ∀ bringup ∈ hardware route, bringup ∈ audits.map Prod.fst

private theorem enable_audited (route : WatchRoute) (audits : List (BringupRoute × String)) :
    (Proven audits route ∧ route.enable (audited audits) = .ok ()) ∨
      ∃ bringup, hardware route = some bringup ∧ bringup ∉ audits.map Prod.fst ∧
        route.enable (audited audits) = .error (unproven bringup) := by
  have require (bringup : BringupRoute) :
      (bringup ∈ audits.map Prod.fst ∧ requireVerified bringup (audited audits) = .ok ()) ∨
        bringup ∉ audits.map Prod.fst ∧ requireVerified bringup (audited audits) = .error (unproven bringup) := by
    have verified := verified_audited audits bringup
    by_cases listed : bringup ∈ audits.map Prod.fst
    · exact .inl ⟨listed, if_neg (not_not.mpr (verified.mpr listed))⟩
    · exact .inr ⟨listed, if_pos (mt verified.mp listed)⟩
  cases route with
  | ble | relay | zeppBridge =>
    refine (require _).imp (fun passed => ⟨?_, passed.2⟩) fun failed => ⟨_, rfl, failed⟩
    intro bringup stands
    cases stands
    exact passed.1
  | fileImport | stub =>
    refine .inl ⟨?_, rfl⟩
    intro bringup stands
    cases stands

private theorem openSession_enabled {build : TextBuild} {provider : WatchProvider}
    (enabled : provider.route.enable provider.bringup = .ok ()) :
    provider.openSession build = (routeFeed build provider.route).map fun feed =>
      .new build.toBuild feed.1 feed.2 provider.profile := by
  obtain ⟨route, profile, bringup⟩ := provider
  rw [WatchProvider.openSession, enabled]
  cases route with
  | ble | relay | zeppBridge | stub => rfl
  | fileImport source =>
    change (source.events build >>= _) = ((source.events build).map _).map _
    cases source.events build <;> rfl

private theorem openSession_disabled {build : TextBuild} {provider : WatchProvider} {error : DeviceError}
    (disabled : provider.route.enable provider.bringup = .error error) :
    provider.openSession build = .error error := by
  rw [WatchProvider.openSession, disabled]
  rfl

/-- After any row of audits a provider opens its route exactly when the proof of that very
route is among them, and then over the route's own events. Hardware without proof is refused in
the words of the proof it lacks, whatever else was audited; imports and the stub need none. -/
theorem open_iff_audited (build : TextBuild) (route : WatchRoute) (audits : List (BringupRoute × String)) :
    (∀ session, ((WatchProvider.new route).withBringupLedger (audited audits)).openSession build = .ok session ↔
      Proven audits route ∧ ∃ kind events, routeFeed build route = .ok (kind, events) ∧
        session = .new build.toBuild kind events watchDeviceProfile) ∧
    (∀ error, ((WatchProvider.new route).withBringupLedger (audited audits)).openSession build = .error error ↔
      (Proven audits route ∧ routeFeed build route = .error error) ∨
        ∃ bringup, hardware route = some bringup ∧ bringup ∉ audits.map Prod.fst ∧ error = unproven bringup) := by
  obtain ⟨proven, enabled⟩ | ⟨bringup, stands, missing, disabled⟩ := enable_audited route audits
  · have opened : ((WatchProvider.new route).withBringupLedger (audited audits)).openSession build =
        (routeFeed build route).map fun feed => .new build.toBuild feed.1 feed.2 watchDeviceProfile :=
      openSession_enabled enabled
    have nothing : ¬ ∃ bringup, hardware route = some bringup ∧ bringup ∉ audits.map Prod.fst := by
      intro unmet
      obtain ⟨bringup, stands, missing⟩ := unmet
      exact missing (proven bringup stands)
    rw [opened]
    constructor
    · intro session
      cases routeFeed build route with
      | error => simp [Except.map]
      | ok feed =>
        obtain ⟨kind, events⟩ := feed
        simp [Except.map, proven, eq_comm]
    · intro error
      rw [or_iff_left fun unmet => nothing (unmet.imp fun _ refused => ⟨refused.1, refused.2.1⟩)]
      cases routeFeed build route <;> simp [Except.map, proven]
  · have refused : ((WatchProvider.new route).withBringupLedger (audited audits)).openSession build =
        .error (unproven bringup) := openSession_disabled disabled
    have unproven : ¬ Proven audits route := fun proven => missing (proven bringup stands)
    rw [refused]
    constructor
    · intro session
      exact iff_of_false nofun fun opened => unproven opened.1
    · intro error
      rw [or_iff_right fun opened => unproven opened.1]
      constructor
      · intro same
        exact ⟨bringup, stands, missing, (Except.error.inj same).symm⟩
      · intro other
        obtain ⟨found, again, _, same⟩ := other
        rw [same, Option.some.inj (stands.symm.trans again)]

end Gate

section Delivery
variable {α : Type} (sample : DeviceSample α)

/-- Every answer to a call that takes the front of a queue of expressions. -/
def queueAnswer : ObservationCall → Option Expr → ObservationAnswer α
  | .poll _, found => .expr (.ok found)
  | .pollSample, found => .sample (sample.decode found)
  | .start, _ | .stop, _ => .done (.ok ())

/-- Raw polls of these kinds take a sample, and so does the typed poll if its kind is one. -/
def takesSample (served : String → Bool) : ObservationCall → Bool
  | .poll kind => served kind
  | .pollSample => served sample.sampleKind
  | .start | .stop => false

private theorem cassette_drains : (ObservationCassetteSession.session.machine sample).Drains (fun _ => True)
    ObservationCassetteSession.samples (takesSample sample fun _ => true) (queueAnswer sample) where
  keeps _ _ _ := trivial
  answers {input} _ _ taken := by
    cases input with
    | start | stop => cases taken
    | poll | pollSample => rfl
  taking {input} _ _ taken := by
    cases input with
    | start | stop => cases taken
    | poll | pollSample => rfl
  keeping {input} _ _ kept := by
    cases input with
    | start | stop => rfl
    | poll | pollSample => cases kept

/-- A cassette answers the polls of any kind, raw or typed, from its samples in the order
they were recorded, and a sample that is none of the type asked for is taken all the same. -/
theorem cassette_replays_in_order (cassette : ObservationCassette) (earlier : List ObservationCall) :
    ∃ session, cassette.open = .ok session ∧
      let machine := ObservationCassetteSession.session.machine sample
      let taken := earlier.countP (takesSample sample fun _ => true)
      (∀ kind, (machine.step (machine.final session earlier) (.poll kind)).1 = .expr (.ok cassette.samples[taken]?)) ∧
      (machine.step (machine.final session earlier) .pollSample).1 = .sample (sample.decode cassette.samples[taken]?) ∧
      (machine.final session earlier).samples = cassette.samples.drop taken := by
  refine ⟨⟨cassette.profile, cassette.samples⟩, rfl, ?_, ?_, ?_⟩
  · intro kind
    exact (cassette_drains sample).place _ trivial earlier _ rfl
  · exact (cassette_drains sample).place _ trivial earlier _ rfl
  · exact (cassette_drains sample).left _ trivial earlier

end Delivery

section Watch
variable (access : Access) (build : Build) (debugLen : Expr → Nat)

def wornEventSample : DeviceSample WornEvent where
  sampleKind := wornEventSampleKind
  toExpr := WornEvent.toExpr build
  fromExpr := WornEvent.fromExpr access

abbrev watchMachine := (WatchSession.session debugLen access).typedMachine (wornEventSample access build)

def takesEvent : ObservationCall ⊕ EffectRequest → Bool
  | .inl call => takesSample (wornEventSample access build) (fun kind => kind = wornEventSampleKind) call
  | .inr _ => false

def eventAnswer : ObservationCall ⊕ EffectRequest → Option Expr →
    ObservationAnswer WornEvent ⊕ DeviceResult EffectReceipt
  | .inl call, found => .inl (queueAnswer (wornEventSample access build) call found)
  | .inr _, _ => .inr (.error .unsupported)

private theorem watch_drains : (watchMachine access build debugLen).Drains (fun _ => True) WatchSession.events
    (takesEvent access build) (eventAnswer access build) where
  keeps _ _ _ := trivial
  answers {input} session _ taken := by
    match input with
    | .inl .start | .inl .stop | .inr _ => cases taken
    | .inl (.poll kind) =>
      have same : kind = wornEventSampleKind := of_decide_eq_true taken
      rw [same]
      have answered : (session.poll wornEventSampleKind).1 = .ok session.events.head? :=
        congrArg Prod.fst (poll_worn debugLen access session)
      exact congrArg (fun found => Sum.inl (ObservationAnswer.expr found)) answered
    | .inl .pollSample => rfl
  taking {input} session _ taken := by
    match input with
    | .inl .start | .inl .stop | .inr _ => cases taken
    | .inl (.poll kind) =>
      have same : kind = wornEventSampleKind := of_decide_eq_true taken
      rw [same]
      have moved : (session.poll wornEventSampleKind).2 = { session with events := session.events.tail } :=
        congrArg Prod.snd (poll_worn debugLen access session)
      exact congrArg WatchSession.events moved
    | .inl .pollSample => rfl
  keeping {input} session _ kept := by
    match input with
    | .inl .start | .inl .stop => rfl
    | .inr request => exact invoke_events debugLen access request session
    | .inl (.poll kind) =>
      have other : kind ≠ wornEventSampleKind := of_decide_eq_false kept
      have unmoved : session.poll kind = (.ok none, session) := poll_other debugLen access other session
      exact congrArg (fun result => result.2.events) unmoved
    | .inl .pollSample => cases kept

/-- What a typed poll makes of the next event of a route. -/
def readBack : Option WornEvent → DeviceResult (Option WornEvent)
  | none => .ok none
  | some event => if event.seq.toNat < 2 ^ 63 then .ok (some event) else .error (.sample "worn event field seq is not u64")

variable {access build}

private theorem decode_event (writes : Writes build) (requires : RequiresFirst access) (event : Option WornEvent) :
    (wornEventSample access build).decode (event.map (WornEvent.toExpr build)) = readBack event := by
  cases event with
  | none => rfl
  | some event =>
    have read := fromExpr_toExpr writes requires event
    change (WornEvent.fromExpr access (event.toExpr build)).map some = _
    rw [read, readBack]
    split <;> rfl

theorem openSession_feed {textBuild : TextBuild} {provider : WatchProvider} {session : WatchSession}
    (opened : provider.openSession textBuild = .ok session) : ∃ kind events,
      routeFeed textBuild provider.route = .ok (kind, events) ∧
        session = .new textBuild.toBuild kind events provider.profile := by
  cases enabled : provider.route.enable provider.bringup with
  | error error => cases (openSession_disabled enabled).symm.trans opened
  | ok =>
    rw [openSession_enabled enabled] at opened
    cases fed : routeFeed textBuild provider.route with
    | error error =>
      rw [fed] at opened
      cases opened
    | ok feed =>
      rw [fed] at opened
      exact ⟨feed.1, feed.2, rfl, (Except.ok.inj opened).symm⟩

/-- An opened watch delivers the events of its route one by one, whichever of its raw and
typed polls takes them and whatever is started, stopped, polled or invoked in between.
A typed poll fails exactly for the events numbered past the signed range, and such an
event is taken: the ones behind it still arrive. -/
theorem worn_events_in_order (textBuild : TextBuild) (writes : Writes textBuild.toBuild)
    (requires : RequiresFirst access) (provider : WatchProvider) (session : WatchSession)
    (opened : provider.openSession textBuild = .ok session) (earlier : List (ObservationCall ⊕ EffectRequest)) :
    ∃ kind events, routeFeed textBuild provider.route = .ok (kind, events) ∧
      let machine := watchMachine access textBuild.toBuild debugLen
      let taken := earlier.countP (takesEvent access textBuild.toBuild)
      (machine.step (machine.final session earlier) (.inl .pollSample)).1 = .inl (.sample (readBack events[taken]?)) ∧
      (machine.step (machine.final session earlier) (.inl (.poll wornEventSampleKind))).1 =
        .inl (.expr (.ok (events[taken]?.map (WornEvent.toExpr textBuild.toBuild)))) ∧
      (machine.final session earlier).events = (events.drop taken).map (WornEvent.toExpr textBuild.toBuild) := by
  obtain ⟨kind, events, fed, rfl⟩ := openSession_feed opened
  have drains := watch_drains access textBuild.toBuild debugLen
  have encoded (index : Nat) : (WatchSession.new textBuild.toBuild kind events provider.profile).events[index]? =
      events[index]?.map (WornEvent.toExpr textBuild.toBuild) := List.getElem?_map
  refine ⟨kind, events, fed, ?_, ?_, ?_⟩
  · have answered := drains.place (.new textBuild.toBuild kind events provider.profile) trivial earlier (.inl .pollSample) rfl
    rw [answered, encoded, ← decode_event writes requires]
    rfl
  · have answered := drains.place (.new textBuild.toBuild kind events provider.profile) trivial earlier
      (.inl (.poll wornEventSampleKind)) (by simp [takesEvent, takesSample])
    rw [answered, encoded]
    rfl
  · rw [List.map_drop]
    exact drains.left _ trivial earlier

/-- A hardware watch with an audited proof and one event past the signed range. -/
def auditedWatch : WatchProvider :=
  (WatchProvider.new (.ble ⟨"hci0", "trex3pro-48", [heartRate 0x8000000000000000, heartRate 1]⟩)).withBringupLedger
    (audited [(.ble, "BlueZ hci0 log")])

theorem second_event_after_unreadable_one : ∃ session kind events,
    routeFeed plainTextBuild auditedWatch.route = .ok (kind, events) ∧
      let machine := watchMachine plainAccess plainTextBuild.toBuild fun _ => 0
      let earlier : List (ObservationCall ⊕ EffectRequest) := [.inl .start, .inl .pollSample]
      let taken := earlier.countP (takesEvent plainAccess plainTextBuild.toBuild)
      (machine.step (machine.final session earlier) (.inl .pollSample)).1 = .inl (.sample (readBack events[taken]?)) ∧
      (machine.step (machine.final session earlier) (.inl (.poll wornEventSampleKind))).1 =
        .inl (.expr (.ok (events[taken]?.map (WornEvent.toExpr plainTextBuild.toBuild)))) ∧
      (machine.final session earlier).events = (events.drop taken).map (WornEvent.toExpr plainTextBuild.toBuild) :=
  ⟨_, worn_events_in_order (fun _ => 0) plainTextBuild plainBuild_writes plainAccess_requires auditedWatch _ rfl
    [.inl .start, .inl .pollSample]⟩

end Watch

end StreamHost.Proofs.TypedPolling
