import StreamHost.Proofs.ImportEvents
import StreamHost.Proofs.SampleLanes
import StreamHost.Proofs.WornConsent

/-! The way of an imported row: from its line through the normalized event and the polls
of an import session to the consent its consumer has to have. -/

namespace StreamHost.Proofs.ImportedRows
open Wristbridge Text SampleLanes WornConsent WornEventWire

/-- The lines of a body that are neither blank nor headers. -/
def importLines (body : String) : List (List Char) := (rowLines body.toList).filter (!isHeader ·)

def lineSensor (line : List Char) : String := ((splitRow line)[0]?.map normalizeSensor).getD "motion"

def lineValue (build : TextBuild) (line : List Char) : Expr :=
  ((splitRow line)[1]?.map (parseValue build)).getD (build.text (String.ofList line))

def lineEvent (build : TextBuild) (index : Nat) (line : List Char) : WornEvent :=
  wornOf index (lineSensor line) (lineValue build line)

/-- The consent class of a row, by its first cell that is not empty. -/
def lineConsent (line : List Char) : WatchCapability :=
  match (splitRow line)[0]? with
  | none => .health
  | some cell =>
    let token := String.ofList (lower cell)
    if token ∈ ["mic", "audio", "mic-audio"] then .mic
    else if token ∈ ["gps", "latlon", "location", "route", "track"] then .location
    else .health

section Lines
variable (build : TextBuild)

private theorem rowPicks_eq (body : String) :
    rowPicks build body = (importLines body).map fun line => (lineSensor line, lineValue build line) := by
  rw [rowPicks, importLines]
  induction rowLines body.toList with
  | nil => rfl
  | cons line rest ih =>
    rw [List.filterMap_cons, List.filter_cons, ih, rowPick]
    cases isHeader line with
    | true => rfl
    | false => rfl

private theorem numbered_lines (lines : List (List Char)) :
    numbered (lines.map fun line => (lineSensor line, lineValue build line)) = lines.mapIdx (lineEvent build) := by
  apply List.ext_getElem?
  intro index
  rw [numbered, List.getElem?_mapIdx, List.getElem?_mapIdx, List.getElem?_map, Option.map_map]
  rfl

/-- Each line that is read gives one event, numbered by its place. -/
theorem events_eq {format : ImportFormat} (rows : format ∈ rowFormats) (body : String) :
    ImportSource.events build ⟨format, body⟩ = if format = .zeppExport ∧ importLines body = [] then
      .error (.sample "zepp export did not contain worn rows")
    else .ok ((importLines body).mapIdx (lineEvent build)) := by
  rw [rowEvents_eq build rows, rowPicks_eq, numbered_lines]
  simp only [List.map_eq_nil_iff]

end Lines

section Consent

private theorem mem_splitRow {line cell : List Char} (member : cell ∈ splitRow line) : trim cell = cell := by
  obtain ⟨field, _, rfl⟩ := List.mem_map.mp (List.mem_of_mem_filter member)
  exact trim_trim field

def sensorWords : List String := ["hr", "heart_rate", "heart rate", "heartrate", "heart-rate", "gps", "latlon", "location",
  "route", "track", "battery", "bat", "connection", "link", "mic", "audio", "mic-audio"]

private theorem normalizeSensor_consent {cell : List Char} (trimmed : trim cell = cell) :
    WatchCapability.forSensor (normalizeSensor cell) =
      if String.ofList (lower cell) ∈ ["mic", "audio", "mic-audio"] then .mic
      else if String.ofList (lower cell) ∈ ["gps", "latlon", "location", "route", "track"] then .location
      else .health := by
  rw [normalizeSensor, trimmed]
  generalize String.ofList (lower cell) = token
  by_cases known : token ∈ sensorWords
  · revert token
    decide
  · simp only [sensorWords, List.mem_cons, List.not_mem_nil, or_false, not_or] at known
    simp [known, WatchCapability.forSensor]

private theorem lineSensor_consent (line : List Char) : WatchCapability.forSensor (lineSensor line) = lineConsent line := by
  rw [lineSensor, lineConsent]
  cases found : (splitRow line)[0]? with
  | none => rfl
  | some cell => exact normalizeSensor_consent (mem_splitRow (List.mem_of_getElem? found))

end Consent

section Wire
variable {access : Access} {build : TextBuild}

/-- What a consumer makes of the expression of a row. -/
structure ReadsRow (access : Access) (build : TextBuild) (index : Nat) (line : List Char) (expr : Expr) : Prop where
  decoded : WornEvent.fromExpr access expr = .ok (lineEvent build index line)
  classified : watchCapabilityForWornEvent access expr = .ok (lineConsent line)

private theorem worn_classified (writes : Writes build.toBuild) (reads : access.ReadsSymbols) (event : WornEvent) :
    watchCapabilityForWornEvent access (event.toExpr build.toBuild) = .ok (.forSensor event.sensor.name) := by
  rw [toExpr_eq writes]
  exact (classified_iff reads).mpr ⟨rfl, event.sensor, ⟨rfl, event.worn⟩, rfl⟩

private theorem lineEvent_seq (build : TextBuild) {index : Nat} (small : index < 2 ^ 63) (line : List Char) :
    (lineEvent build index line).seq.toNat = index := UInt64.toNat_ofNat_of_lt' (small.trans (by decide))

private theorem lineEvent_read (writes : Writes build.toBuild) (requires : RequiresFirst access) (reads : access.ReadsSymbols)
    {index : Nat} (small : index < 2 ^ 63) (line : List Char) :
    ReadsRow access build index line ((lineEvent build index line).toExpr build.toBuild) := by
  constructor
  · have number := lineEvent_seq build small line
    apply (fromExpr_toExpr_iff writes requires _).mpr
    omega
  · rw [worn_classified writes reads]
    exact congrArg Except.ok (lineSensor_consent line)

/-- A row is ingested with the authority and the visible consent of its class, for its own session. -/
theorem ingest_row_iff {Cx : Type} {require : CapabilityName → Cx → Result Unit} {cx : Cx} {grants : List Symbol}
    {receiptSession session : Symbol} {index : Nat} {line : List Char} {expr : Expr} {capability : WatchCapability}
    (row : ReadsRow access build index line expr) :
    requireWatchWornIngest require access cx expr grants receiptSession session = .ok capability ↔
      capability = lineConsent line ∧ require (lineConsent line).capabilityName cx = .ok () ∧ receiptSession = session ∧
        ∃ grant ∈ grants, grant.asQualifiedStr = (lineConsent line).asStr := ingest_iff row.classified

end Wire

section Polls
variable (debugLen : Expr → Nat) (access : Access)

def watchLane (kind : String) (session : WatchSession) : List Expr :=
  if kind = wornEventSampleKind then session.events else []

theorem invoke_events (request : EffectRequest) (session : WatchSession) :
    (WatchSession.invoke debugLen access request session).2.events = session.events := by
  unfold WatchSession.invoke
  split
  · rfl
  split
  · rfl
  · rfl

theorem poll_worn (session : WatchSession) : (WatchSession.session debugLen access).poll wornEventSampleKind session =
    (.ok session.events.head?, { session with events := session.events.tail }) := by
  change session.poll wornEventSampleKind = _
  rw [WatchSession.poll, if_pos rfl]

theorem poll_other {kind : String} (other : kind ≠ wornEventSampleKind) (session : WatchSession) :
    (WatchSession.session debugLen access).poll kind session = (.ok none, session) := by
  change session.poll kind = _
  rw [WatchSession.poll, if_neg other]

private theorem watchLane_worn (session : WatchSession) : watchLane wornEventSampleKind session = session.events := if_pos rfl

private theorem watchLane_other {kind : String} (other : kind ≠ wornEventSampleKind) (session : WatchSession) :
    watchLane kind session = [] := if_neg other

/-- A watch session answers every poll, with events for polls of one kind only. -/
theorem watch_serves : ServesLanes (WatchSession.session debugLen access) (fun _ => true) watchLane id where
  start _ _ := rfl
  stop _ _ := rfl
  invoke kind request session := by
    have kept : ((WatchSession.session debugLen access).invoke request session).2.events = session.events :=
      invoke_events debugLen access request session
    rw [watchLane, watchLane, kept]
  served kind session _ := by
    by_cases worn : kind = wornEventSampleKind
    · subst worn
      rw [poll_worn, watchLane_worn, watchLane_worn, Option.map_id_fun]
      exact ⟨rfl, rfl⟩
    · rw [poll_other debugLen access worn, watchLane_other worn]
      exact ⟨rfl, rfl⟩
  others kind other session different := by
    by_cases worn : kind = wornEventSampleKind
    · subst worn
      rw [watchLane_other different, watchLane_other different]
    · rw [poll_other debugLen access worn]
  refused _ _ closed := by cases closed
  empty kind session none := by
    by_cases worn : kind = wornEventSampleKind
    · subst worn
      rw [watchLane_worn] at none
      rw [poll_worn, none, List.tail_nil, ← none]
    · rw [poll_other debugLen access worn]

end Polls

section Import
variable {access : Access} {build : TextBuild}

/-- How often a run asked for worn events. -/
def wornPolls (run : List (SessionEvent WatchSession)) : Nat := asked (fun _ => true) wornEventSampleKind run

/-- The polls for worn events received the expressions in order, once each and then none;
other polls received nothing. -/
structure DeliversRows (exprs : List Expr) (run : List (SessionEvent WatchSession)) : Prop where
  answers : ∀ earlier event later, run = earlier ++ event :: later → event.input = .poll wornEventSampleKind →
    event.output = .sample (.ok exprs[wornPolls earlier]?)
  delivered : delivered wornEventSampleKind run = exprs.take (wornPolls run)
  others : ∀ event ∈ run, ∀ kind, kind ≠ wornEventSampleKind → event.input = .poll kind → event.output = .sample (.ok none)

/-- The events of a body are its lines, numbered; a session that imports them delivers them,
and what it delivers is read back as the event of its line, under the consent of that line. -/
structure ImportsRows (access : Access) (build : TextBuild) (body : String) (events : List WornEvent) : Prop where
  lines : events = (importLines body).mapIdx (lineEvent build)
  seq : ∀ index (event : WornEvent), events[index]? = some event → event.seq.toNat = index
  delivers : ∀ profile debugLen commandAccess calls, DeliversRows (events.map (WornEvent.toExpr build.toBuild))
    ((WatchSession.session debugLen commandAccess).machine.trace
      (WatchSession.new build.toBuild .fileImport events profile) calls)
  reads : ∀ index line, (importLines body)[index]? = some line → ∃ event, events[index]? = some event ∧
    ReadsRow access build index line (event.toExpr build.toBuild)

private theorem session_delivers (debugLen : Expr → Nat) (access : Access) (session : WatchSession) (calls : List SessionCall) :
    DeliversRows session.events ((WatchSession.session debugLen access).machine.trace session calls) := by
  have lanes := watch_serves debugLen access
  have worn := run_follows lanes wornEventSampleKind session calls
  rw [watchLane_worn] at worn
  constructor
  · intro earlier event later split polled
    have answer := worn.answers earlier event later split polled rfl
    rwa [Option.map_id_fun] at answer
  · rw [worn.delivered, List.map_id_fun]
    rfl
  · intro event member kind other polled
    obtain ⟨earlier, later, split⟩ := List.append_of_mem member
    have answer := (run_follows lanes kind session calls).answers earlier event later split polled rfl
    rwa [watchLane_other other, List.getElem?_nil, Option.map_none] at answer

/-- Every row reaches its consumer once and in order, under the consent class it names; the
one import that fails is a Zepp export without rows. -/
theorem rows_reach_consumer (writes : Writes build.toBuild) (requires : RequiresFirst access) (reads : access.ReadsSymbols)
    {format : ImportFormat} (rows : format ∈ rowFormats) (body : String) (few : (importLines body).length ≤ 2 ^ 63) :
    (format = .zeppExport ∧ importLines body = [] →
      ImportSource.events build ⟨format, body⟩ = .error (.sample "zepp export did not contain worn rows")) ∧
    (¬ (format = .zeppExport ∧ importLines body = []) →
      ∃ events, ImportSource.events build ⟨format, body⟩ = .ok events ∧ ImportsRows access build body events) := by
  have parsed := events_eq build rows body
  constructor
  · intro empty
    rwa [if_pos empty] at parsed
  · intro present
    rw [if_neg present] at parsed
    have placed {index : Nat} {line : List Char} (found : (importLines body)[index]? = some line) : index < 2 ^ 63 := by
      obtain ⟨inside, _⟩ := List.getElem?_eq_some_iff.mp found
      omega
    refine ⟨_, parsed, rfl, ?_, ?_, ?_⟩
    · intro index event found
      rw [List.getElem?_mapIdx, Option.map_eq_some_iff] at found
      obtain ⟨line, found, rfl⟩ := found
      exact lineEvent_seq build (placed found) line
    · intro profile debugLen commandAccess calls
      exact session_delivers debugLen commandAccess (WatchSession.new build.toBuild .fileImport _ profile) calls
    · intro index line found
      refine ⟨lineEvent build index line, ?_, lineEvent_read writes requires reads (placed found) line⟩
      rw [List.getElem?_mapIdx, found]
      rfl

theorem mixed_rows_reach_consumer :
    ∃ events, ImportSource.events plainTextBuild ⟨.zeppExport, "Mic,on\n\nsensor,value\n ROUTE; 12\nsteps\n"⟩ = .ok events ∧
      ImportsRows plainAccess plainTextBuild "Mic,on\n\nsensor,value\n ROUTE; 12\nsteps\n" events :=
  (rows_reach_consumer plainBuild_writes plainAccess_requires plainAccess_reads (by decide) _ (by decide)).2 (by decide)

end Import

end StreamHost.Proofs.ImportedRows
