import StreamHost.Lib.Machine
import StreamHost.Lib.Saturating
import StreamHost.Queue

/-! Host callback cassettes, their replay into a callback queue, and all that can be done
with a queue. -/

namespace StreamHost
variable {ν μ : Type}

structure HostCallbackReplayReport where
  accepted : UInt64
  droppedNewest : UInt64
  droppedOldest : UInt64
  rejected : UInt64
  closed : UInt64
deriving DecidableEq, Repr

namespace HostCallbackReplayReport

def zero : HostCallbackReplayReport := ⟨0, 0, 0, 0, 0⟩

def record (result : PushResult μ) (report : HostCallbackReplayReport) : HostCallbackReplayReport :=
  match result with
  | .accepted => { report with accepted := report.accepted.saturatingAdd 1 }
  | .droppedNewest _ => { report with droppedNewest := report.droppedNewest.saturatingAdd 1 }
  | .droppedOldest _ => { report with droppedOldest := report.droppedOldest.saturatingAdd 1 }
  | .rejected _ => { report with rejected := report.rejected.saturatingAdd 1 }
  | .closed _ => { report with closed := report.closed.saturatingAdd 1 }

end HostCallbackReplayReport

structure HostCallbackCassette (μ : Type) where
  items : List (StreamItem μ)

namespace HostCallbackCassette

def new : HostCallbackCassette μ := ⟨[]⟩

def recordItem (item : StreamItem μ) (cassette : HostCallbackCassette μ) : HostCallbackCassette μ :=
  ⟨cassette.items ++ [item]⟩

def recordPacket (packet : StreamPacket μ) (cassette : HostCallbackCassette μ) : HostCallbackCassette μ :=
  cassette.recordItem ⟨packet⟩

/-- The loop of `replay`. What was pushed before an error stays pushed, and its report is lost. -/
def replayItems (stream : PushStream ν μ) (report : HostCallbackReplayReport) (queue : HostCallbackQueue ν) :
    List (StreamItem μ) → Result HostCallbackReplayReport × HostCallbackQueue ν
  | [] => (.ok report, queue)
  | item :: rest =>
    match queue.callbackItem stream item with
    | (.error error, next) => (.error error, next)
    | (.ok result, next) => replayItems stream (report.record result) next rest

def replay (stream : PushStream ν μ) (queue : HostCallbackQueue ν) (cassette : HostCallbackCassette μ) :
    Result HostCallbackReplayReport × HostCallbackQueue ν := replayItems stream .zero queue cassette.items

end HostCallbackCassette

/-- The calls on a queue, by host callbacks, a driver, a consumer or a replay. They may hold clones
of it: these share one stream. -/
inductive QueueCall (μ : Type) where
  | callbackItem (item : StreamItem μ)
  | callbackPacket (packet : StreamPacket μ)
  | replay (cassette : HostCallbackCassette μ)
  | drain (limit : UInt64)
  | close
  | cancel

inductive QueueAnswer (μ : Type) where
  | pushed (result : Result (PushResult μ))
  | replayed (result : Result HostCallbackReplayReport)
  | drained (result : Result (List (StreamItem μ)))
  | closed (result : Result Unit)

def HostCallbackQueue.machine (stream : PushStream ν μ) : Machine (HostCallbackQueue ν) (QueueCall μ) (QueueAnswer μ) where
  step queue call := match call with
    | .callbackItem item => (queue.callbackItem stream item).map .pushed id
    | .callbackPacket packet => (queue.callbackPacket stream packet).map .pushed id
    | .replay cassette => (cassette.replay stream queue).map .replayed id
    | .drain limit => (queue.drain stream limit).map .drained id
    | .close => (queue.close stream).map .closed id
    | .cancel => (queue.cancel stream).map .closed id

end StreamHost
