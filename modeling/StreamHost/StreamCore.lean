import StreamHost.Kernel
import StreamHost.Lib.BoundedQueue

/-! The stream core as the host crate uses it: media, metadata, packets, and push
streams, whose operations are parameters. -/

namespace StreamHost

inductive StreamMedia where
  | pcm
  | midi
  | diagnostic
  | data
deriving DecidableEq, Repr

inductive StreamDirection where
  | source
  | sink
  | duplex
deriving DecidableEq, Repr

inductive ClockDomain where
  | sample
  | midiTick
  | serverFrame
  | control
  | other (name : String)
deriving DecidableEq, Repr

/-- The symbols of clock domains, and reading a symbol back. -/
structure ClockSymbols where
  symbol : ClockDomain → Symbol
  fromSymbol : Symbol → Result ClockDomain

structure BufferPolicy where
  capacity : UInt64
deriving DecidableEq, Repr

structure StreamMetadata where
  id : Symbol
  media : StreamMedia
  direction : StreamDirection
  clock : Symbol
  buffer : BufferPolicy
deriving DecidableEq, Repr

/-- A packet of some media over its payload. -/
inductive StreamPacket (μ : Type) where
  | pcm (payload : μ)
  | midi (payload : μ)
  | diagnostic (payload : μ)
  | data (payload : μ)
deriving DecidableEq, Repr

structure StreamItem (μ : Type) where
  packet : StreamPacket μ
deriving DecidableEq, Repr

inductive PushResult (μ : Type) where
  | accepted
  | droppedNewest (item : StreamItem μ)
  | droppedOldest (item : StreamItem μ)
  | rejected (item : StreamItem μ)
  | closed (item : StreamItem μ)
deriving DecidableEq, Repr

/-- The operations of push streams with states `ν`. -/
structure PushStream (ν μ : Type) where
  fresh : StreamMetadata → ν
  pushPacket : StreamItem μ → ν → Result (PushResult μ) × ν
  takePackets : UInt64 → ν → Result (List (StreamItem μ)) × ν
  closePush : ν → Result Unit × ν
  cancel : ν → Result Unit × ν

structure StreamValue (ν : Type) where
  metadata : StreamMetadata
  state : ν

def StreamValue.push {ν μ : Type} (stream : PushStream ν μ) (metadata : StreamMetadata) : StreamValue ν :=
  ⟨metadata, stream.fresh metadata⟩

namespace PushStream
variable {ν μ : Type}

/-- Closing and canceling succeed, however often they are repeated. -/
structure Closes (stream : PushStream ν μ) : Prop where
  closePush : ∀ state, (stream.closePush state).1 = .ok ()
  cancel : ∀ state, (stream.cancel state).1 = .ok ()

end PushStream

/-- A bounded queue of items, with the bound of its buffer policy. -/
abbrev BoundedItems (μ : Type) := (bound : Nat) × BoundedQueue (StreamItem μ) bound

/-- The push stream over a bounded queue that drops the newest item. -/
def boundedStream (μ : Type) : PushStream (BoundedItems μ) μ where
  fresh metadata := ⟨metadata.buffer.capacity.toNat, .empty⟩
  pushPacket item state :=
    match state.2.push item with
    | .ok next => (.ok .accepted, ⟨state.1, next⟩)
    | .error .full => (.ok (.droppedNewest item), state)
    | .error .closed => (.ok (.closed item), state)
  takePackets limit state := (state.2.take limit.toNat).map .ok fun next => ⟨state.1, next⟩
  closePush state := (.ok (), ⟨state.1, state.2.close⟩)
  cancel state := (.ok (), ⟨state.1, state.2.cancel⟩)

theorem boundedStream_closes (μ : Type) : (boundedStream μ).Closes := ⟨fun _ => rfl, fun _ => rfl⟩

end StreamHost
