import StreamHost.Backend
import StreamHost.Lib.Conveyor
import StreamHost.Proofs.PacketReceipts

/-! What becomes of the callbacks of an opened stream, over any interleaving of callbacks,
replays, drains, closes and cancels, from the first use its driver's builder makes of the
queue. Only items of the stream's own media are ever acknowledged, none by a sink; and what
is acknowledged is drained in order, waits or is lost to the overflow policy or a cancel. -/

namespace StreamHost

/-- The stream queues what it acknowledges, under any overflow policy, seen through `view`. -/
structure PushStream.Queues {ν μ : Type} (stream : PushStream ν μ) (view : ν → List (StreamItem μ)) : Prop where
  fresh : ∀ metadata, view (stream.fresh metadata) = []
  accepted : ∀ {item state}, (stream.pushPacket item state).1 = .ok .accepted →
    view (stream.pushPacket item state).2 = view state ++ [item]
  droppedOldest : ∀ {item oldest state}, (stream.pushPacket item state).1 = .ok (.droppedOldest oldest) →
    ∃ rest, view state = oldest :: rest ∧ view (stream.pushPacket item state).2 = rest ++ [item]
  refused : ∀ {item state}, (stream.pushPacket item state).1 ≠ .ok .accepted →
    (∀ oldest, (stream.pushPacket item state).1 ≠ .ok (.droppedOldest oldest)) →
    view (stream.pushPacket item state).2 = view state
  taken : ∀ {limit items state}, (stream.takePackets limit state).1 = .ok items →
    view state = items ++ view (stream.takePackets limit state).2
  untaken : ∀ {limit error state}, (stream.takePackets limit state).1 = .error error →
    view (stream.takePackets limit state).2 = view state
  closePush : ∀ state, view (stream.closePush state).2 = view state
  canceled : ∀ {state}, (stream.cancel state).1 = .ok () → view (stream.cancel state).2 = []
  uncanceled : ∀ {error state}, (stream.cancel state).1 = .error error → view (stream.cancel state).2 = view state

namespace Proofs.OpenedStreams
variable {ν μ δ : Type}

abbrev QueueEvent (ν μ : Type) := Machine.Event (HostCallbackQueue ν) (QueueCall μ) (QueueAnswer μ)

/-- The pushes of some items one after the other, up to the first that is an error. -/
def pushAll (stream : PushStream ν μ) (queue : HostCallbackQueue ν) :
    List (StreamItem μ) → List (StreamItem μ × Result (PushResult μ)) × HostCallbackQueue ν
  | [] => ([], queue)
  | item :: rest =>
    match queue.callbackItem stream item with
    | (.error error, next) => ([(item, .error error)], next)
    | (.ok result, next) => (pushAll stream next rest).map ((item, .ok result) :: ·) id

/-- The items that a call offers to the queue. -/
def offered : QueueCall μ → List (StreamItem μ)
  | .callbackItem item => [item]
  | .callbackPacket packet => [⟨packet⟩]
  | .replay cassette => cassette.items
  | .drain _ | .close | .cancel => []

def pushes (stream : PushStream ν μ) (event : QueueEvent ν μ) : List (StreamItem μ × Result (PushResult μ)) :=
  (pushAll stream event.before (offered event.input)).1

/-- The item of a push that says the queue has it. -/
def keptItem : StreamItem μ × Result (PushResult μ) → Option (StreamItem μ)
  | (item, .ok .accepted) | (item, .ok (.droppedOldest _)) => some item
  | _ => none

def displaces : StreamItem μ × Result (PushResult μ) → Bool
  | (_, .ok (.droppedOldest _)) => true
  | _ => false

def acknowledged (stream : PushStream ν μ) (event : QueueEvent ν μ) : List (StreamItem μ) :=
  (pushes stream event).filterMap keptItem

def drained (event : QueueEvent ν μ) : List (StreamItem μ) :=
  match event.output with
  | .drained (.ok items) => items
  | _ => []

def waiting (view : ν → List (StreamItem μ)) (queue : HostCallbackQueue ν) : List (StreamItem μ) :=
  view queue.stream.state

/-- The waiting items that the event has displaced or canceled. -/
def lost (stream : PushStream ν μ) (view : ν → List (StreamItem μ)) (event : QueueEvent ν μ) : Nat :=
  (pushes stream event).countP displaces +
    match event.input with
    | .cancel => (waiting view event.before).length - (waiting view event.after).length
    | _ => 0

section Pushes
variable {stream : PushStream ν μ} {view : ν → List (StreamItem μ)} (queues : stream.Queues view)
  {queue : HostCallbackQueue ν} {item : StreamItem μ}

/-- A push gets as far as the stream, or is refused before it. -/
theorem callbackItem_cases (stream : PushStream ν μ) (queue : HostCallbackQueue ν) (item : StreamItem μ) :
    (∃ error, queue.callbackItem stream item = (.error error, queue)) ∨
      queue.direction ≠ .sink ∧ item.packet.media = queue.media ∧
        queue.callbackItem stream item = queue.onStream (stream.pushPacket item) := by
  unfold HostCallbackQueue.callbackItem HostCallbackQueue.ensureCallbackInput HostCallbackQueue.ensureMedia Except.rejectIf
  by_cases sink : queue.direction = .sink
  · rw [if_pos sink]
    exact .inl ⟨_, rfl⟩
  by_cases foreign : item.packet.media ≠ queue.media
  · rw [if_neg sink, if_pos foreign]
    exact .inl ⟨_, rfl⟩
  · rw [if_neg sink, if_neg foreign]
    exact .inr ⟨sink, not_not.mp foreign, rfl⟩

/-- A queue of the same media and direction over a changed stream. -/
structure Same (before after : HostCallbackQueue ν) : Prop where
  media : after.media = before.media
  direction : after.direction = before.direction

private theorem Same.trans {before after last : HostCallbackQueue ν} (first : Same before after) (second : Same after last) :
    Same before last := ⟨second.media.trans first.media, second.direction.trans first.direction⟩

private theorem onStream_same {α : Type} (operation : ν → Result α × ν) (queue : HostCallbackQueue ν) :
    Same queue (queue.onStream operation).2 := ⟨rfl, rfl⟩

include queues in
private theorem push_conveys (state : ν) (item : StreamItem μ) :
    Conveys (view state) ([(item, (stream.pushPacket item state).1)].filterMap keptItem) []
      (view (stream.pushPacket item state).2) ([(item, (stream.pushPacket item state).1)].countP displaces) := by
  cases answer : (stream.pushPacket item state).1 with
  | error error =>
    rw [queues.refused (by rw [answer]; exact nofun) (by rw [answer]; exact nofun)]
    exact .idle _
  | ok result =>
    cases result with
    | accepted =>
      rw [queues.accepted answer]
      exact .arrive _ item
    | droppedOldest oldest =>
      obtain ⟨rest, held, grown⟩ := queues.droppedOldest answer
      rw [held, grown]
      exact .replace oldest rest item
    | droppedNewest | rejected | closed =>
      rw [queues.refused (by rw [answer]; exact nofun) (by rw [answer]; exact nofun)]
      exact .idle _

include queues in
private theorem callbackItem_conveys (queue : HostCallbackQueue ν) (item : StreamItem μ) :
    let outcome := queue.callbackItem stream item
    Conveys (view queue.stream.state) ([(item, outcome.1)].filterMap keptItem) [] (view outcome.2.stream.state)
      ([(item, outcome.1)].countP displaces) := by
  obtain ⟨error, refused⟩ | ⟨_, _, reached⟩ := callbackItem_cases stream queue item
  · rw [refused]
    exact .idle _
  · rw [reached]
    exact push_conveys queues queue.stream.state item

include queues in
/-- Pushing some items conveys them as pushing each of them does. -/
theorem pushAll_conveys (queue : HostCallbackQueue ν) (items : List (StreamItem μ)) :
    Conveys (view queue.stream.state) ((pushAll stream queue items).1.filterMap keptItem) []
      (view (pushAll stream queue items).2.stream.state) ((pushAll stream queue items).1.countP displaces) := by
  induction items generalizing queue with
  | nil => exact .idle _
  | cons item rest ih =>
    have first := callbackItem_conveys queues queue item
    rw [pushAll]
    generalize queue.callbackItem stream item = outcome at first
    obtain ⟨_ | result, next⟩ := outcome
    · exact first
    · have whole := first.trans (ih next)
      rw [← List.filterMap_append, ← List.countP_append] at whole
      exact whole

private theorem callbackItem_same (stream : PushStream ν μ) (queue : HostCallbackQueue ν) (item : StreamItem μ) :
    Same queue (queue.callbackItem stream item).2 := by
  obtain ⟨error, refused⟩ | ⟨_, _, reached⟩ := callbackItem_cases stream queue item
  · rw [refused]
    exact ⟨rfl, rfl⟩
  · rw [reached]
    exact onStream_same _ queue

/-- What is acknowledged passed the queue's own checks. -/
def Fits (queue : HostCallbackQueue ν) (item : StreamItem μ) : Prop :=
  item.packet.media = queue.media ∧ queue.direction ≠ .sink

theorem Same.fits {before after : HostCallbackQueue ν} (same : Same before after) {item : StreamItem μ}
    (fits : Fits after item) : Fits before item := by
  rw [Fits, ← same.media, ← same.direction]
  exact fits

private theorem pushAll_same (stream : PushStream ν μ) (queue : HostCallbackQueue ν) (items : List (StreamItem μ)) :
    Same queue (pushAll stream queue items).2 := by
  induction items generalizing queue with
  | nil => exact ⟨rfl, rfl⟩
  | cons item rest ih =>
    have first := callbackItem_same stream queue item
    rw [pushAll]
    generalize queue.callbackItem stream item = outcome at first
    obtain ⟨_ | result, next⟩ := outcome
    · exact first
    · exact first.trans (ih next)

private theorem pushAll_fits (stream : PushStream ν μ) (queue : HostCallbackQueue ν) (items : List (StreamItem μ)) :
    ∀ item ∈ (pushAll stream queue items).1.filterMap keptItem, Fits queue item := by
  induction items generalizing queue with
  | nil => exact List.forall_mem_nil _
  | cons offer rest ih =>
    have same := callbackItem_same stream queue offer
    obtain ⟨error, refused⟩ | ⟨direction, media, _⟩ := callbackItem_cases stream queue offer
    · rw [pushAll, refused]
      exact List.forall_mem_nil _
    · rw [pushAll]
      generalize queue.callbackItem stream offer = outcome at same
      obtain ⟨_ | result, next⟩ := outcome
      · exact List.forall_mem_nil _
      · intro item member
        obtain ⟨push, listed, kept⟩ := List.mem_filterMap.mp member
        obtain rfl | later := List.mem_cons.mp listed
        · cases result with
          | accepted | droppedOldest =>
            cases kept
            exact ⟨media, direction⟩
          | droppedNewest | rejected | closed => cases kept
        · exact same.fits (ih next item (List.mem_filterMap.mpr ⟨push, later, kept⟩))

end Pushes

section Reports

/-- A counter saturates. -/
def Counts (counter : UInt64) (kind : PushResult μ → Bool) (results : List (PushResult μ)) : Prop :=
  counter.toNat = min (results.countP kind) UInt64.greatest

def isAccepted : PushResult μ → Bool
  | .accepted => true
  | _ => false

def isDroppedNewest : PushResult μ → Bool
  | .droppedNewest _ => true
  | _ => false

def isDroppedOldest : PushResult μ → Bool
  | .droppedOldest _ => true
  | _ => false

def isRejected : PushResult μ → Bool
  | .rejected _ => true
  | _ => false

def isClosed : PushResult μ → Bool
  | .closed _ => true
  | _ => false

/-- Every result is counted under its own kind and no other. -/
structure Tallies (report : HostCallbackReplayReport) (results : List (PushResult μ)) : Prop where
  accepted : Counts report.accepted isAccepted results
  droppedNewest : Counts report.droppedNewest isDroppedNewest results
  droppedOldest : Counts report.droppedOldest isDroppedOldest results
  rejected : Counts report.rejected isRejected results
  closed : Counts report.closed isClosed results

theorem Counts.more {counter : UInt64} {kind : PushResult μ → Bool} {results : List (PushResult μ)}
    (counts : Counts counter kind results) {result : PushResult μ} (own : kind result = true) :
    Counts (counter.saturatingAdd 1) kind (results ++ [result]) := by
  rw [Counts, UInt64.toNat_saturatingAdd, counts, List.countP_append, List.countP_singleton, if_pos own, UInt64.toNat_one]
  omega

theorem Counts.other {counter : UInt64} {kind : PushResult μ → Bool} {results : List (PushResult μ)}
    (counts : Counts counter kind results) {result : PushResult μ} (foreign : kind result = false) :
    Counts counter kind (results ++ [result]) := by
  rw [Counts, List.countP_append, List.countP_singleton, if_neg (Bool.eq_false_iff.mp foreign)]
  exact counts

theorem Tallies.record {report : HostCallbackReplayReport} {results : List (PushResult μ)} (tallies : Tallies report results)
    (result : PushResult μ) : Tallies (report.record result) (results ++ [result]) := by
  obtain ⟨accepted, droppedNewest, droppedOldest, rejected, closed⟩ := tallies
  cases result with
  | accepted => exact ⟨accepted.more rfl, droppedNewest.other rfl, droppedOldest.other rfl, rejected.other rfl, closed.other rfl⟩
  | droppedNewest =>
    exact ⟨accepted.other rfl, droppedNewest.more rfl, droppedOldest.other rfl, rejected.other rfl, closed.other rfl⟩
  | droppedOldest =>
    exact ⟨accepted.other rfl, droppedNewest.other rfl, droppedOldest.more rfl, rejected.other rfl, closed.other rfl⟩
  | rejected => exact ⟨accepted.other rfl, droppedNewest.other rfl, droppedOldest.other rfl, rejected.more rfl, closed.other rfl⟩
  | closed => exact ⟨accepted.other rfl, droppedNewest.other rfl, droppedOldest.other rfl, rejected.other rfl, closed.more rfl⟩

private theorem tallies_zero : Tallies .zero ([] : List (PushResult μ)) := ⟨rfl, rfl, rfl, rfl, rfl⟩

/-- How a replay answers for its pushes: with their tally, or with the error that ended them. -/
inductive Reports (items : List (StreamItem μ)) :
    List (StreamItem μ × Result (PushResult μ)) → Result HostCallbackReplayReport → Prop where
  | told {report : HostCallbackReplayReport} {results : List (PushResult μ)} (whole : results.length = items.length)
      (tallies : Tallies report results) : Reports items (items.zip (results.map .ok)) (.ok report)
  | failed {error : Error} {earlier later : List (StreamItem μ)} {item : StreamItem μ} {results : List (PushResult μ)}
      (split : items = earlier ++ item :: later) (whole : results.length = earlier.length) :
      Reports items (earlier.zip (results.map .ok) ++ [(item, .error error)]) (.error error)

private theorem replayItems_pushes (stream : PushStream ν μ) (report : HostCallbackReplayReport) (queue : HostCallbackQueue ν)
    (items : List (StreamItem μ)) :
    (HostCallbackCassette.replayItems stream report queue items).2 = (pushAll stream queue items).2 := by
  induction items generalizing report queue with
  | nil => rfl
  | cons item rest ih =>
    rw [HostCallbackCassette.replayItems, pushAll]
    generalize queue.callbackItem stream item = outcome
    obtain ⟨_ | result, next⟩ := outcome
    · rfl
    · exact ih _ next

private theorem replayItems_reports (stream : PushStream ν μ) {report : HostCallbackReplayReport} {past : List (PushResult μ)}
    (tallies : Tallies report past) (queue : HostCallbackQueue ν) (items : List (StreamItem μ)) :
    (∃ told results, (HostCallbackCassette.replayItems stream report queue items).1 = .ok told ∧
      Tallies told (past ++ results) ∧ results.length = items.length ∧
        (pushAll stream queue items).1 = items.zip (results.map .ok)) ∨
    ∃ error earlier item later, ∃ results : List (PushResult μ),
      (HostCallbackCassette.replayItems stream report queue items).1 = .error error ∧ items = earlier ++ item :: later ∧
        results.length = earlier.length ∧ (pushAll stream queue items).1 = earlier.zip (results.map .ok) ++ [(item, .error error)] := by
  induction items generalizing report past queue with
  | nil => exact .inl ⟨report, [], rfl, by rwa [List.append_nil], rfl, rfl⟩
  | cons item rest ih =>
    rw [HostCallbackCassette.replayItems, pushAll]
    generalize queue.callbackItem stream item = outcome
    obtain ⟨error | result, next⟩ := outcome
    · exact .inr ⟨error, [], item, rest, [], rfl, rfl, rfl, rfl⟩
    · obtain ⟨told, results, answered, counted, whole, pushed⟩ |
        ⟨error, earlier, last, later, results, answered, split, whole, pushed⟩ := ih (tallies.record result) next
      · left
        rw [List.append_assoc, List.singleton_append] at counted
        exact ⟨told, result :: results, answered, counted, congrArg Nat.succ whole, congrArg (List.cons (item, Except.ok result)) pushed⟩
      · right
        exact ⟨error, item :: earlier, last, later, result :: results, answered, congrArg (item :: ·) split,
          congrArg Nat.succ whole, congrArg (List.cons (item, Except.ok result)) pushed⟩

private theorem replay_reports (stream : PushStream ν μ) (queue : HostCallbackQueue ν) (cassette : HostCallbackCassette μ) :
    Reports cassette.items (pushAll stream queue cassette.items).1 (cassette.replay stream queue).1 := by
  obtain ⟨told, results, answered, counted, whole, pushed⟩ |
    ⟨error, earlier, item, later, results, answered, split, whole, pushed⟩ :=
      replayItems_reports stream tallies_zero queue cassette.items
  · rw [HostCallbackCassette.replay, answered, pushed]
    exact .told whole counted
  · rw [HostCallbackCassette.replay, answered, pushed]
    exact .failed split whole

end Reports

section Runs
variable {stream : PushStream ν μ} {view : ν → List (StreamItem μ)} {driver : HostStreamDriver δ}

private theorem close_queue (stream : PushStream ν μ) (driver : HostStreamDriver δ) (opened : HostOpenStream ν δ) :
    (opened.close stream driver).2.queue = (opened.queue.close stream).2 := by
  unfold HostOpenStream.close HostOpenStream.shutdownDriver
  split
  · rename_i closed
    rw [closed]
  · rename_i closed
    rw [closed]
    cases opened.driver <;> rfl

private theorem cancel_queue (stream : PushStream ν μ) (driver : HostStreamDriver δ) (opened : HostOpenStream ν δ) :
    (opened.cancel stream driver).2.queue = (opened.queue.cancel stream).2 := by
  unfold HostOpenStream.cancel HostOpenStream.shutdownDriver
  split
  · rename_i canceled
    rw [canceled]
  · rename_i canceled
    rw [canceled]
    cases opened.driver <;> rfl

private theorem pushAll_one (stream : PushStream ν μ) (queue : HostCallbackQueue ν) (item : StreamItem μ) :
    (pushAll stream queue [item]).2 = (queue.callbackItem stream item).2 := by
  rw [pushAll]
  generalize queue.callbackItem stream item = outcome
  obtain ⟨_ | result, next⟩ := outcome <;> rfl

/-- Whatever the call, the queue it leaves is that of its pushes, of its drain, or of the closed stream. -/
theorem step_queue (queue : HostCallbackQueue ν) (call : QueueCall μ) :
    ((HostCallbackQueue.machine stream).step queue call).2 = match call with
      | .drain limit => (queue.drain stream limit).2
      | .close => (queue.close stream).2
      | .cancel => (queue.cancel stream).2
      | call => (pushAll stream queue (offered call)).2 := by
  cases call with
  | callbackItem item => exact (pushAll_one stream queue item).symm
  | callbackPacket packet => exact (pushAll_one stream queue ⟨packet⟩).symm
  | replay cassette => exact replayItems_pushes stream .zero queue cassette.items
  | drain | close | cancel => rfl

private theorem step_same (queue : HostCallbackQueue ν) (call : QueueCall μ) :
    Same queue ((HostCallbackQueue.machine stream).step queue call).2 := by
  rw [step_queue]
  cases call with
  | callbackItem | callbackPacket | replay => exact pushAll_same stream queue _
  | drain | close | cancel => exact ⟨rfl, rfl⟩

private theorem step_conveys (queues : stream.Queues view) (queue : HostCallbackQueue ν) (call : QueueCall μ) :
    let event := (HostCallbackQueue.machine stream).event queue call
    Conveys (waiting view queue) (acknowledged stream event) (drained event) (waiting view event.after)
      (lost stream view event) := by
  intro event
  have after : event.after = _ := step_queue queue call
  cases call with
  | callbackItem | callbackPacket | replay =>
    have pushed := pushAll_conveys queues queue (offered event.input)
    rw [waiting, waiting, after]
    exact pushed
  | drain limit =>
    have output : event.output = .drained (stream.takePackets limit queue.stream.state).1 := rfl
    rw [waiting, waiting, after, drained, output]
    change Conveys _ [] _ (view (stream.takePackets limit queue.stream.state).2) 0
    cases taken : (stream.takePackets limit queue.stream.state).1 with
    | error error =>
      rw [queues.untaken taken]
      exact .idle _
    | ok items =>
      rw [queues.taken taken]
      exact .depart items _
  | close =>
    rw [waiting, waiting, after]
    change Conveys _ [] [] (view (stream.closePush queue.stream.state).2) 0
    rw [queues.closePush]
    exact .idle _
  | cancel =>
    rw [lost, waiting, waiting, waiting, after]
    change Conveys _ [] [] (view (stream.cancel queue.stream.state).2)
      (0 + ((view queue.stream.state).length - (view (stream.cancel queue.stream.state).2).length))
    rw [Nat.zero_add]
    cases canceled : (stream.cancel queue.stream.state).1 with
    | error error =>
      rw [queues.uncanceled canceled, Nat.sub_self]
      exact .idle _
    | ok =>
      rw [queues.canceled canceled, List.length_nil, Nat.sub_zero]
      exact .clear _

/-- The event is a step of the queue, whatever a close or a cancel answers: behind an opened
stream these answer for the driver too. -/
structure QueueStep (stream : PushStream ν μ) (event : QueueEvent ν μ) : Prop where
  after : event.after = ((HostCallbackQueue.machine stream).step event.before event.input).2
  output : match event.input with
    | .close | .cancel => ∃ result, event.output = .closed result
    | call => event.output = ((HostCallbackQueue.machine stream).step event.before call).1

private theorem queue_steps (queue : HostCallbackQueue ν) (call : QueueCall μ) :
    QueueStep stream ((HostCallbackQueue.machine stream).event queue call) := by
  refine ⟨rfl, ?_⟩
  cases call with
  | callbackItem | callbackPacket | replay | drain => rfl
  | close | cancel => exact ⟨_, rfl⟩

/-- The queue of an opened stream goes the way of a queue alone. -/
theorem opened_steps (opened : HostOpenStream ν δ) (call : QueueCall μ) :
    QueueStep stream (((HostOpenStream.machine stream driver).event opened call).onState HostOpenStream.queue) := by
  cases call with
  | callbackItem | callbackPacket | replay | drain => exact ⟨rfl, rfl⟩
  | close => exact ⟨close_queue stream driver opened, _, rfl⟩
  | cancel => exact ⟨cancel_queue stream driver opened, _, rfl⟩

private theorem QueueStep.drained_eq {event : QueueEvent ν μ} (steps : QueueStep stream event) :
    drained event = drained ((HostCallbackQueue.machine stream).event event.before event.input) := by
  have output := steps.output
  unfold drained
  cases call : event.input with
  | callbackItem | callbackPacket | replay | drain =>
    rw [call] at output
    rw [output]
    rfl
  | close | cancel =>
    rw [call] at output
    obtain ⟨result, answered⟩ := output
    rw [answered]
    rfl

theorem QueueStep.conveys {event : QueueEvent ν μ} (steps : QueueStep stream event) (queues : stream.Queues view) :
    Conveys (waiting view event.before) (acknowledged stream event) (drained event) (waiting view event.after)
      (lost stream view event) := by
  have own := step_conveys queues event.before event.input
  have after : ((HostCallbackQueue.machine stream).event event.before event.input).after = event.after := steps.after.symm
  simp only [lost, after, ← steps.drained_eq] at own
  exact own

private theorem opened_conveys (queues : stream.Queues view) (opened : HostOpenStream ν δ) (call : QueueCall μ) :
    let event := (HostOpenStream.machine stream driver).event opened call
    let onQueue := Machine.Event.onState HostOpenStream.queue
    Conveys (waiting view opened.queue) ((acknowledged stream ∘ onQueue) event) ((drained ∘ onQueue) event)
      (waiting view event.after.queue) ((lost stream view ∘ onQueue) event) := (opened_steps opened call).conveys queues

def freshQueue (stream : PushStream ν μ) (config : HostStreamConfig) : HostCallbackQueue ν :=
  .new (.push stream config.metadata)

/-- How a stream is opened, with the media that this way of opening insists on and the calls
that the driver's builder has made of its queue by then. -/
inductive Opens (clocks : ClockSymbols) (stream : PushStream ν μ) (config : HostStreamConfig) :
    Option StreamMedia → List (QueueCall μ) → HostOpenStream ν δ → Prop where
  | plain : Opens clocks stream config none [] (.new stream config)
  | driven (driver : δ) : Opens clocks stream config none [] (.newWithDriver stream config driver)
  | built {opened : HostOpenStream ν δ} (buildDriver : DriverBuilder μ δ)
      (accepted : HostOpenStream.tryNewWithDriver stream config buildDriver = .ok opened) :
      Opens clocks stream config none (buildDriver.calls (HostCallbackQueue.machine stream) (freshQueue stream config)) opened
  | realtime {opened : HostOpenStream ν δ} (accepted : HostOpenStream.newRealtimeLocalAudio stream clocks config = .ok opened) :
      Opens clocks stream config (some .pcm) [] opened
  | realtimeDriven {opened : HostOpenStream ν δ} (driver : δ)
      (accepted : HostOpenStream.newRealtimeLocalAudioWithDriver stream clocks config driver = .ok opened) :
      Opens clocks stream config (some .pcm) [] opened
  | realtimeBuilt {opened : HostOpenStream ν δ} (buildDriver : DriverBuilder μ δ)
      (accepted : HostOpenStream.tryNewRealtimeLocalAudioWithDriver stream clocks config buildDriver = .ok opened) :
      Opens clocks stream config (some .pcm)
        (buildDriver.calls (HostCallbackQueue.machine stream) (freshQueue stream config)) opened
  | lanMidi {opened : HostOpenStream ν δ} (accepted : HostOpenStream.newLanMidiControl stream clocks config = .ok opened) :
      Opens clocks stream config (some .midi) [] opened
  | preview {opened : HostOpenStream ν δ}
      (accepted : HostOpenStream.newLanBufferedAudioPreview stream config = .ok opened) :
      Opens clocks stream config (some .pcm) [] opened

/-- What the checks of a configuration insist on. -/
def Insists (config : HostStreamConfig) (media : StreamMedia) : Prop := config.media = media ∧ config.buffer.capacity ≠ 0

private theorem realtime_insists {clocks : ClockSymbols} {config : HostStreamConfig}
    (valid : config.validateRealtimeLocalAudio clocks = .ok ()) : Insists config .pcm := by
  simp only [HostStreamConfig.validateRealtimeLocalAudio, Except.bind_eq_ok, Except.rejectIf_eq_ok, not_not] at valid
  obtain ⟨_, pcm, _, _, _, _, bounded⟩ := valid
  exact ⟨pcm, bounded⟩

private theorem lanMidi_insists {clocks : ClockSymbols} {config : HostStreamConfig}
    (valid : config.validateLanMidiControl clocks = .ok ()) : Insists config .midi := by
  simp only [HostStreamConfig.validateLanMidiControl, Except.bind_eq_ok, Except.rejectIf_eq_ok, not_not] at valid
  obtain ⟨_, midi, _, _, _, _, bounded⟩ := valid
  exact ⟨midi, bounded⟩

private theorem preview_insists {config : HostStreamConfig} (valid : config.validateLanBufferedAudioPreview = .ok ()) :
    Insists config .pcm := by
  simp only [HostStreamConfig.validateLanBufferedAudioPreview, Except.bind_eq_ok, Except.rejectIf_eq_ok, not_not] at valid
  obtain ⟨_, pcm, bounded⟩ := valid
  exact ⟨pcm, bounded⟩

private theorem tryNewWithDriver_queue {config : HostStreamConfig} {buildDriver : DriverBuilder μ δ} {opened : HostOpenStream ν δ}
    (accepted : HostOpenStream.tryNewWithDriver stream config buildDriver = .ok opened) :
    opened.queue = (HostCallbackQueue.machine stream).final (freshQueue stream config)
      (buildDriver.calls (HostCallbackQueue.machine stream) (freshQueue stream config)) := by
  rw [← Machine.Client.run_final]
  unfold HostOpenStream.tryNewWithDriver at accepted
  split at accepted
  · cases accepted
  · rename_i built
    cases accepted
    exact (congrArg Prod.snd built).symm

section Opens
variable {clocks : ClockSymbols} {config : HostStreamConfig} {insisted : Option StreamMedia} {opening : List (QueueCall μ)}
  {opened : HostOpenStream ν δ}

/-- The queue of an opened stream is a fresh one, as far as the builder has not used it. -/
theorem Opens.queue_eq (opens : Opens clocks stream config insisted opening opened) :
    opened.queue = (HostCallbackQueue.machine stream).final (freshQueue stream config) opening := by
  cases opens with
  | plain | driven => rfl
  | built _ accepted => exact tryNewWithDriver_queue accepted
  | realtimeBuilt _ accepted =>
    obtain ⟨_, _, built⟩ := Except.bind_eq_ok.mp accepted
    exact tryNewWithDriver_queue built
  | realtime accepted | realtimeDriven _ accepted | lanMidi accepted | preview accepted =>
    obtain ⟨_, _, same⟩ := Except.bind_eq_ok.mp accepted
    cases same
    rfl

theorem Opens.insists {media : StreamMedia} (opens : Opens clocks stream config (some media) opening opened) :
    Insists config media := by
  cases opens with
  | realtime accepted | realtimeDriven _ accepted | realtimeBuilt _ accepted =>
    obtain ⟨_, valid, _⟩ := Except.bind_eq_ok.mp accepted
    exact realtime_insists valid
  | lanMidi accepted =>
    obtain ⟨_, valid, _⟩ := Except.bind_eq_ok.mp accepted
    exact lanMidi_insists valid
  | preview accepted =>
    obtain ⟨_, valid, _⟩ := Except.bind_eq_ok.mp accepted
    exact preview_insists valid

end Opens

/-- What a run of a queue has done with its callbacks. -/
structure Delivers (stream : PushStream ν μ) (view : ν → List (StreamItem μ)) (config : HostStreamConfig)
    (run : List (QueueEvent ν μ)) (last : HostCallbackQueue ν) : Prop where
  conveys : Conveys [] (run.flatMap (acknowledged stream)) (run.flatMap drained) (waiting view last)
    (run.map (lost stream view)).sum
  fits : ∀ item ∈ run.flatMap (acknowledged stream), item.packet.media = config.media ∧ config.direction ≠ .output
  reports : ∀ event ∈ run, ∀ cassette, event.input = .replay cassette →
    ∃ answer, event.output = .replayed answer ∧ Reports cassette.items (pushes stream event) answer

private theorem opened_fits {config : HostStreamConfig} {item : StreamItem μ} (fits : Fits (freshQueue stream config) item) :
    item.packet.media = config.media ∧ config.direction ≠ .output := by
  refine ⟨fits.1, ?_⟩
  intro output
  apply fits.2
  change config.direction.streamDirection = .sink
  rw [output]
  rfl

/-- All that has happened to the queue of an opened stream: what the driver's builder did, and
then the calls on the stream and on the clones of its queue. -/
def queueRun (stream : PushStream ν μ) (driver : HostStreamDriver δ) (config : HostStreamConfig)
    (opening : List (QueueCall μ)) (opened : HostOpenStream ν δ) (calls : List (QueueCall μ)) : List (QueueEvent ν μ) :=
  (HostCallbackQueue.machine stream).trace (freshQueue stream config) opening ++
    ((HostOpenStream.machine stream driver).trace opened calls).map (·.onState HostOpenStream.queue)

section Opened
variable {config : HostStreamConfig} {opening : List (QueueCall μ)} {opened : HostOpenStream ν δ}
  (started : opened.queue = (HostCallbackQueue.machine stream).final (freshQueue stream config) opening)
  (calls : List (QueueCall μ))
include started

private theorem queueRun_conveys (queues : stream.Queues view) :
    let run := queueRun stream driver config opening opened calls
    Conveys [] (run.flatMap (acknowledged stream)) (run.flatMap drained)
      (waiting view ((HostOpenStream.machine stream driver).final opened calls).queue) (run.map (lost stream view)).sum := by
  have before := Machine.conveys_run (HostCallbackQueue.machine stream) (waiting view)
    (fun queue call => (queue_steps queue call).conveys queues) (freshQueue stream config) opening
  have after := Machine.conveys_run (HostOpenStream.machine stream driver) (fun state => waiting view state.queue)
    (opened_conveys queues) opened calls
  have empty : waiting view (freshQueue stream config) = [] := queues.fresh _
  rw [empty, ← started] at before
  simp only [queueRun, List.flatMap_append, List.map_append, List.sum_append, List.flatMap_map, List.map_map]
  exact before.trans after

/-- Every event of the run is a step of a queue of the configuration's media and direction. -/
theorem queueRun_steps : ∀ event ∈ queueRun stream driver config opening opened calls,
    QueueStep stream event ∧ Same (freshQueue stream config) event.before := by
  have start : Same (freshQueue stream config) opened.queue := by
    rw [started]
    exact Machine.final_preserves _ (Same (freshQueue stream config))
      (fun state call same => same.trans (step_same state call)) ⟨rfl, rfl⟩ opening
  unfold queueRun
  refine List.forall_mem_append.mpr ⟨?_, ?_⟩
  · apply Machine.trace_forall _ (Same (freshQueue stream config))
    · exact fun state call same => same.trans (step_same state call)
    · exact fun state call same => ⟨queue_steps state call, same⟩
    · exact ⟨rfl, rfl⟩
  · refine List.forall_mem_map.mpr ?_
    apply Machine.trace_forall _ (fun state : HostOpenStream ν δ => Same (freshQueue stream config) state.queue)
    · intro state call same
      have after : ((HostOpenStream.machine stream driver).step state call).2.queue =
          ((HostCallbackQueue.machine stream).step state.queue call).2 := (opened_steps state call).after
      rw [after]
      exact same.trans (step_same state.queue call)
    · exact fun state call same => ⟨opened_steps state call, same⟩
    · exact start

end Opened

/-- Every opened stream delivers so in every run, and one opened for a media hands out nothing else. -/
theorem opened_streams_deliver (queues : stream.Queues view) {clocks : ClockSymbols} {config : HostStreamConfig}
    {insisted : Option StreamMedia} {opening : List (QueueCall μ)} {opened : HostOpenStream ν δ}
    (opens : Opens clocks stream config insisted opening opened) (calls : List (QueueCall μ)) :
    let run := queueRun stream driver config opening opened calls
    Delivers stream view config run ((HostOpenStream.machine stream driver).final opened calls).queue ∧
      ∀ media, insisted = some media → ∀ item ∈ run.flatMap drained, item.packet.media = media := by
  intro run
  have started := opens.queue_eq
  have conveys : Conveys [] (run.flatMap (acknowledged stream)) (run.flatMap drained) _ _ :=
    queueRun_conveys started calls queues
  have steps : ∀ event ∈ run, QueueStep stream event ∧ Same (freshQueue stream config) event.before :=
    queueRun_steps started calls
  have kept : ∀ item ∈ run.flatMap (acknowledged stream), item.packet.media = config.media ∧ config.direction ≠ .output := by
    intro item member
    obtain ⟨event, listed, own⟩ := List.mem_flatMap.mp member
    exact opened_fits ((steps event listed).2.fits (pushAll_fits stream event.before _ item own))
  refine ⟨⟨conveys, kept, ?_⟩, ?_⟩
  · intro event member cassette replayed
    have output := (steps event member).1.output
    rw [replayed] at output
    refine ⟨_, output, ?_⟩
    rw [pushes, replayed]
    exact replay_reports stream event.before cassette
  · intro media asked item member
    have arrived := conveys.order.subset (List.mem_append_left _ member)
    rw [List.nil_append] at arrived
    rw [asked] at opens
    rw [(kept item arrived).1, opens.insists.1]

end Runs

private theorem boundedStream_queues (μ : Type) : (boundedStream μ).Queues fun state => state.2.items where
  fresh _ := rfl
  accepted := by
    intro item state answer
    by_cases room : state.2.HasRoom
    · exact boundedStream_stores room item
    · obtain ⟨refusal, pushed⟩ := BoundedQueue.push_refused room item
      cases refusal <;> simp [boundedStream, pushed] at answer
  droppedOldest := by
    intro item oldest state answer
    simp only [boundedStream] at answer
    split at answer <;> cases answer
  refused := by
    intro item state unaccepted _
    by_cases room : state.2.HasRoom
    · obtain ⟨next, pushed, _⟩ := BoundedQueue.push_room room item
      simp [boundedStream, pushed] at unaccepted
    · rw [boundedStream_refuses room item]
  taken := by
    intro limit items state answer
    cases answer
    exact (List.take_append_drop _ _).symm
  untaken := by
    intro limit error state answer
    cases answer
  closePush _ := rfl
  canceled _ := rfl
  uncanceled := by
    intro error state answer
    cases answer

def previewConfig : HostStreamConfig :=
  ⟨.new "backend", .new "device", .pcm, .input, ⟨2⟩, ⟨.new "clock", none, true⟩, ⟨0, 0⟩, .disabled⟩

def sampleClocks : ClockSymbols := ⟨fun _ => .new "clock", fun _ => .ok .sample⟩

/-- A driver that primes the queue with one item before it is handed over. -/
def primedDriver : DriverBuilder Nat Unit := .call (.callbackItem ⟨.pcm 0⟩) fun _ => .done (.ok ())

def previewCalls : List (QueueCall Nat) :=
  [.callbackItem ⟨.pcm 1⟩, .callbackPacket (.midi 2), .replay ⟨[⟨.pcm 3⟩, ⟨.pcm 4⟩]⟩, .drain 1, .cancel]

theorem primed_stream_delivers :
    let driver : HostStreamDriver Unit := ⟨fun driver => (.ok (), driver)⟩
    ∃ opened, HostOpenStream.tryNewRealtimeLocalAudioWithDriver (boundedStream Nat) sampleClocks previewConfig primedDriver =
        .ok opened ∧
      let run := queueRun (boundedStream Nat) driver previewConfig [.callbackItem ⟨.pcm 0⟩] opened previewCalls
      Delivers (boundedStream Nat) (fun state => state.2.items) previewConfig run
        ((HostOpenStream.machine (boundedStream Nat) driver).final opened previewCalls).queue ∧
      ∀ media, some StreamMedia.pcm = some media → ∀ item ∈ run.flatMap drained, item.packet.media = media := by
  intro driver
  have accepted : HostOpenStream.tryNewRealtimeLocalAudioWithDriver (boundedStream Nat) sampleClocks previewConfig
      primedDriver = .ok _ := rfl
  have opens := Opens.realtimeBuilt primedDriver accepted
  exact ⟨_, accepted, opened_streams_deliver (boundedStream_queues Nat) opens previewCalls⟩

end Proofs.OpenedStreams

end StreamHost
