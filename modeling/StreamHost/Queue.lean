import StreamHost.Lib.Result
import StreamHost.StreamCore

/-! The bounded queue handle passed to host callbacks. -/

namespace StreamHost
variable {ν μ : Type}

def StreamPacket.media : StreamPacket μ → StreamMedia
  | pcm _ => .pcm
  | midi _ => .midi
  | diagnostic _ => .diagnostic
  | data _ => .data

structure HostCallbackQueue (ν : Type) where
  media : StreamMedia
  direction : StreamDirection
  stream : StreamValue ν

namespace HostCallbackQueue

def new (stream : StreamValue ν) : HostCallbackQueue ν :=
  ⟨stream.metadata.media, stream.metadata.direction, stream⟩

/-- Runs an operation of the stream behind the queue. -/
def onStream {α : Type} (operation : ν → Result α × ν) (queue : HostCallbackQueue ν) : Result α × HostCallbackQueue ν :=
  (operation queue.stream.state).map id fun state => { queue with stream := { queue.stream with state } }

def ensureMedia (packet : StreamPacket μ) (queue : HostCallbackQueue ν) : Result Unit :=
  .rejectIf (packet.media ≠ queue.media) (.typeMismatch "host callback packet matching device media"
    "host callback packet for another media")

def ensureCallbackInput (queue : HostCallbackQueue ν) : Result Unit :=
  .rejectIf (queue.direction = .sink) (.eval "host callbacks cannot push into a sink stream")

variable (stream : PushStream ν μ)

def callbackItem (item : StreamItem μ) (queue : HostCallbackQueue ν) : Result (PushResult μ) × HostCallbackQueue ν :=
  match queue.ensureCallbackInput with
  | .error error => (.error error, queue)
  | .ok () =>
    match queue.ensureMedia item.packet with
    | .error error => (.error error, queue)
    | .ok () => queue.onStream (stream.pushPacket item)

def callbackPacket (packet : StreamPacket μ) (queue : HostCallbackQueue ν) :
    Result (PushResult μ) × HostCallbackQueue ν := queue.callbackItem stream ⟨packet⟩

def drain (limit : UInt64) (queue : HostCallbackQueue ν) : Result (List (StreamItem μ)) × HostCallbackQueue ν :=
  queue.onStream (stream.takePackets limit)

def close (queue : HostCallbackQueue ν) : Result Unit × HostCallbackQueue ν := queue.onStream stream.closePush

def cancel (queue : HostCallbackQueue ν) : Result Unit × HostCallbackQueue ν := queue.onStream stream.cancel

end HostCallbackQueue

end StreamHost
