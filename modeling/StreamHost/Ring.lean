import StreamHost.Kernel
import StreamHost.Lib.Machine
import StreamHost.Lib.Saturating

/-! The preallocated ring buffer at process-site stream boundaries. -/

namespace StreamHost

inductive ProcessRingPush (α : Type) where
  | accepted
  | droppedNewest (item : α)
  | closed (item : α)
deriving DecidableEq, Repr

/-- The counters and flags of the stream statistics that the ring updates. -/
structure StreamStats where
  pushed : UInt64
  accepted : UInt64
  yielded : UInt64
  droppedNewest : UInt64
  closed : Bool
  cancelled : Bool
deriving DecidableEq, Repr

def StreamStats.default : StreamStats := ⟨0, 0, 0, 0, false, false⟩

/-- Every slot lies in memory, so sums of two slot indices are plain numbers. -/
structure ProcessSharedRing (α : Type) where
  slots : List (Option α)
  head : Nat
  len : Nat
  closed : Bool
  stats : StreamStats
  headInRange : head < slots.length

namespace ProcessSharedRing
variable {α : Type}

def withCapacity (capacity : Nat) : Result (ProcessSharedRing α) :=
  if zero : capacity = 0 then .error (.eval "process ring capacity must be greater than zero") else
    .ok {
      slots := List.replicate capacity none
      head := 0
      len := 0
      closed := false
      stats := .default
      headInRange := by rw [List.length_replicate]; exact Nat.pos_of_ne_zero zero }

def capacity (ring : ProcessSharedRing α) : Nat := ring.slots.length

def tryPush (item : α) (ring : ProcessSharedRing α) : ProcessRingPush α × ProcessSharedRing α :=
  let stats := { ring.stats with pushed := ring.stats.pushed.saturatingAdd 1 }
  if ring.closed then (.closed item, { ring with stats := { stats with closed := true } })
  else if ring.len = ring.capacity then
    (.droppedNewest item, { ring with
      stats := { stats with droppedNewest := stats.droppedNewest.saturatingAdd 1 } })
  else
    (.accepted, { ring with
      slots := ring.slots.set ((ring.head + ring.len) % ring.capacity) (some item)
      len := ring.len + 1
      stats := { stats with accepted := stats.accepted.saturatingAdd 1 }
      headInRange := by rw [List.length_set]; exact ring.headInRange })

def tryPop (ring : ProcessSharedRing α) : Option α × ProcessSharedRing α :=
  if ring.len = 0 then (none, ring) else
    let item := ring.slots.get ⟨ring.head, ring.headInRange⟩
    (item, { ring with
      slots := ring.slots.set ring.head none
      head := (ring.head + 1) % ring.capacity
      len := ring.len - 1
      stats := { ring.stats with
        yielded := if item.isSome then ring.stats.yielded.saturatingAdd 1 else ring.stats.yielded }
      headInRange := by
        rw [List.length_set]
        exact Nat.mod_lt _ (Nat.zero_lt_of_lt ring.headInRange) })

def close (ring : ProcessSharedRing α) : ProcessSharedRing α :=
  { ring with closed := true, stats := { ring.stats with closed := true } }

theorem tryPop_shortens {ring next : ProcessSharedRing α} {item : α} (popped : ring.tryPop = (some item, next)) :
    next.len < ring.len := by
  unfold tryPop at popped
  split at popped
  · cases popped
  · rename_i occupied
    obtain ⟨_, rfl⟩ := Prod.mk.inj popped
    exact Nat.sub_one_lt occupied

/-- `while self.try_pop().is_some() {}`: stops at the first pop that yields nothing. -/
def drain (ring : ProcessSharedRing α) : ProcessSharedRing α :=
  match _ : ring.tryPop with
  | (none, next) => next
  | (some _, next) => drain next
termination_by ring.len
decreasing_by exact tryPop_shortens ‹_›

def cancel (ring : ProcessSharedRing α) : ProcessSharedRing α :=
  let drained := ring.drain
  { drained with closed := true, stats := { drained.stats with closed := true, cancelled := true } }

end ProcessSharedRing

inductive RingCall (α : Type) where
  | tryPush (item : α)
  | tryPop
  | close
  | cancel

inductive RingAnswer (α : Type) where
  | pushed (result : ProcessRingPush α)
  | popped (item : Option α)
  | done

def ProcessSharedRing.machine (α : Type) : Machine (ProcessSharedRing α) (RingCall α) (RingAnswer α) where
  step ring call := match call with
    | .tryPush item => (ring.tryPush item).map .pushed id
    | .tryPop => ring.tryPop.map .popped id
    | .close => (.done, ring.close)
    | .cancel => (.done, ring.cancel)

end StreamHost
