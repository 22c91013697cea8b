import StreamHost.Lib.BoundedQueue
import StreamHost.Ring

/-! The ring answers every sequence of calls as a bounded first-in first-out
queue does, and its counters account for every item. -/

namespace StreamHost.Proofs.RingRefinement
open ProcessSharedRing

variable {α : Type} {bound : Nat}

def queueMachine (α : Type) (bound : Nat) : Machine (BoundedQueue α bound) (RingCall α) (RingAnswer α) where
  step queue call := match call with
    | .tryPush item => match queue.push item with
      | .ok pushed => (.pushed .accepted, pushed)
      | .error .full => (.pushed (.droppedNewest item), queue)
      | .error .closed => (.pushed (.closed item), queue)
    | .tryPop => queue.pop.map .popped id
    | .close => (.done, queue.close)
    | .cancel => (.done, queue.cancel)

structure Represents (ring : ProcessSharedRing α) (queue : BoundedQueue α bound) : Prop where
  capacity : ring.capacity = bound
  holds : Circular.Holds ring.slots ring.head queue.items
  len : ring.len = queue.items.length
  closed : ring.closed = queue.closed

private theorem represents_empty {ring : ProcessSharedRing α} (created : withCapacity bound = .ok ring) :
    Represents ring (BoundedQueue.empty : BoundedQueue α bound) := by
  unfold withCapacity at created
  split at created
  · cases created
  · rename_i positive
    cases created
    exact ⟨List.length_replicate, .vacant (Nat.pos_of_ne_zero positive), rfl, rfl⟩

section Pop
variable {ring : ProcessSharedRing α} {item : α} {rest : List α} {closed : Bool}
  {fits : (item :: rest).length ≤ bound}

def popped (ring : ProcessSharedRing α) : ProcessSharedRing α where
  slots := ring.slots.set ring.head none
  head := (ring.head + 1) % ring.slots.length
  len := ring.len - 1
  closed := ring.closed
  stats := { ring.stats with yielded := ring.stats.yielded.saturatingAdd 1 }
  headInRange := by
    rw [List.length_set]
    exact Nat.mod_lt _ (Nat.zero_lt_of_lt ring.headInRange)

private theorem tryPop_empty (vacant : ring.len = 0) : ring.tryPop = (none, ring) := if_pos vacant

private theorem tryPop_front (represents : Represents ring (⟨item :: rest, closed, fits⟩ : BoundedQueue α bound)) :
    ring.tryPop = (some item, popped ring) := by
  have front : ring.slots.get ⟨ring.head, ring.headInRange⟩ = some item := by
    have read := represents.holds.front
    rw [List.getElem?_eq_getElem ring.headInRange] at read
    exact Option.some.inj read
  have occupied : ring.len ≠ 0 := by rw [represents.len]; exact Nat.succ_ne_zero _
  simp only [tryPop, if_neg occupied, front, Option.isSome_some, if_true]
  rfl

private theorem represents_popped (represents : Represents ring (⟨item :: rest, closed, fits⟩ : BoundedQueue α bound)) :
    Represents (popped ring) (⟨rest, closed, Nat.le_of_succ_le fits⟩ : BoundedQueue α bound) where
  capacity := by rw [← represents.capacity]; exact List.length_set
  holds := represents.holds.pop
  len := by
    change ring.len - 1 = rest.length
    rw [represents.len]
    rfl
  closed := represents.closed

end Pop

/-- What draining leaves of a ring: no items, each one counted as yielded. -/
structure Drained (ring next : ProcessSharedRing α) : Prop where
  pushed : next.stats.pushed = ring.stats.pushed
  accepted : next.stats.accepted = ring.stats.accepted
  droppedNewest : next.stats.droppedNewest = ring.stats.droppedNewest
  yielded : next.stats.yielded.toNat = min (ring.stats.yielded.toNat + ring.len) UInt64.greatest

private theorem drain_stop {ring next : ProcessSharedRing α} (stopped : ring.tryPop = (none, next)) : ring.drain = next := by
  rw [drain]
  split
  · rename_i again; exact congrArg Prod.snd (again.symm.trans stopped)
  · rename_i again; cases again.symm.trans stopped

private theorem drain_next {ring next : ProcessSharedRing α} {item : α} (more : ring.tryPop = (some item, next)) :
    ring.drain = next.drain := by
  rw [drain]
  split
  · rename_i again; cases again.symm.trans more
  · rename_i again; exact congrArg drain (congrArg Prod.snd (again.symm.trans more))

private theorem drain_empties {ring : ProcessSharedRing α} {items : List α} {closed : Bool} {fits : items.length ≤ bound}
    (represents : Represents ring (⟨items, closed, fits⟩ : BoundedQueue α bound)) :
    Represents ring.drain (⟨[], closed, Nat.zero_le _⟩ : BoundedQueue α bound) ∧ Drained ring ring.drain := by
  induction items generalizing ring with
  | nil =>
    have vacant : ring.len = 0 := represents.len
    rw [drain_stop (tryPop_empty vacant)]
    refine ⟨represents, rfl, rfl, rfl, ?_⟩
    rw [vacant, Nat.add_zero, Nat.min_eq_left (UInt64.toNat_le_greatest _)]
  | cons item rest ih =>
    rw [drain_next (tryPop_front represents)]
    obtain ⟨emptied, drained⟩ := ih (represents_popped represents)
    refine ⟨emptied, drained.pushed, drained.accepted, drained.droppedNewest, ?_⟩
    have shorter : (popped ring).len + 1 = ring.len := by
      rw [(represents_popped represents).len, represents.len]
      rfl
    have counted : (popped ring).stats.yielded.toNat = min (ring.stats.yielded.toNat + 1) UInt64.greatest :=
      UInt64.toNat_saturatingAdd _ _
    rw [drained.yielded, counted]
    omega

section Push
variable {ring : ProcessSharedRing α} {queue : BoundedQueue α bound} (item : α)

def offered (ring : ProcessSharedRing α) : StreamStats :=
  { ring.stats with pushed := ring.stats.pushed.saturatingAdd 1 }

private theorem tryPush_closed (represents : Represents ring queue) (closed : queue.closed = true) :
    ring.tryPush item = (.closed item, { ring with stats := { offered ring with closed := true } }) :=
  if_pos (represents.closed.trans closed)

private theorem tryPush_full (represents : Represents ring queue) (opened : ¬ queue.closed = true)
    (full : queue.items.length = bound) : ring.tryPush item = (.droppedNewest item, { ring with
      stats := { offered ring with droppedNewest := ring.stats.droppedNewest.saturatingAdd 1 } }) := by
  have filled : ring.len = ring.capacity := by rw [represents.len, represents.capacity, full]
  exact (if_neg (represents.closed ▸ opened)).trans (if_pos filled)

def appended (ring : ProcessSharedRing α) : ProcessSharedRing α where
  slots := ring.slots.set ((ring.head + ring.len) % ring.slots.length) (some item)
  head := ring.head
  len := ring.len + 1
  closed := ring.closed
  stats := { offered ring with accepted := ring.stats.accepted.saturatingAdd 1 }
  headInRange := by rw [List.length_set]; exact ring.headInRange

private theorem tryPush_room (represents : Represents ring queue) (opened : ¬ queue.closed = true)
    (room : queue.items.length < bound) : ring.tryPush item = (.accepted, appended item ring) := by
  have unfilled : ring.len ≠ ring.capacity := by
    rw [represents.len, represents.capacity]
    exact Nat.ne_of_lt room
  exact (if_neg (represents.closed ▸ opened)).trans (if_neg unfilled)

private theorem represents_appended (represents : Represents ring queue) (room : queue.items.length < bound)
    {fits : (queue.items ++ [item]).length ≤ bound} :
    Represents (appended item ring) (⟨queue.items ++ [item], queue.closed, fits⟩ : BoundedQueue α bound) where
  capacity := by rw [← represents.capacity]; exact List.length_set
  holds := by
    have within : queue.items.length < ring.slots.length := Nat.lt_of_lt_of_eq room represents.capacity.symm
    have stored := represents.holds.push within item
    rwa [← represents.len] at stored
  len := by
    change ring.len + 1 = _
    rw [represents.len, List.length_append, List.length_singleton]
  closed := represents.closed

end Push

/-- All a push can do, on the ring and on its queue alike. -/
inductive Pushes (item : α) (ring : ProcessSharedRing α) (queue : BoundedQueue α bound) :
    RingAnswer α × ProcessSharedRing α → RingAnswer α × BoundedQueue α bound → Prop where
  | closed (refused : queue.closed = true) : Pushes item ring queue
      (.pushed (.closed item), { ring with stats := { offered ring with closed := true } })
      (.pushed (.closed item), queue)
  | full (opened : ¬ queue.closed = true) (filled : queue.items.length = bound) : Pushes item ring queue
      (.pushed (.droppedNewest item), { ring with
        stats := { offered ring with droppedNewest := ring.stats.droppedNewest.saturatingAdd 1 } })
      (.pushed (.droppedNewest item), queue)
  | accepted (opened : ¬ queue.closed = true) (room : queue.items.length < bound)
      (fits : (queue.items ++ [item]).length ≤ bound) : Pushes item ring queue
      (.pushed .accepted, appended item ring) (.pushed .accepted, ⟨queue.items ++ [item], queue.closed, fits⟩)

private theorem step_push {ring : ProcessSharedRing α} {queue : BoundedQueue α bound}
    (represents : Represents ring queue) (item : α) :
    Pushes item ring queue ((machine α).step ring (.tryPush item))
      ((queueMachine α bound).step queue (.tryPush item)) := by
  simp only [machine, queueMachine, BoundedQueue.push]
  by_cases closed : queue.closed = true
  · rw [tryPush_closed item represents closed, if_pos closed]
    exact .closed closed
  rw [if_neg closed]
  by_cases room : queue.items.length < bound
  · rw [tryPush_room item represents closed room, dif_pos room]
    exact .accepted closed room _
  · have filled : queue.items.length = bound := Nat.le_antisymm queue.fits (Nat.not_lt.mp room)
    rw [tryPush_full item represents closed filled, dif_neg room]
    exact .full closed filled

theorem Pushes.simulates {item : α} {ring : ProcessSharedRing α} {queue : BoundedQueue α bound} {mine theirs}
    (offers : Pushes item ring queue mine theirs) (represents : Represents ring queue) :
    mine.1 = theirs.1 ∧ Represents mine.2 theirs.2 := by
  cases offers with
  | closed | full => exact ⟨rfl, represents.capacity, represents.holds, represents.len, represents.closed⟩
  | accepted opened room fits => exact ⟨rfl, represents_appended item represents room⟩

private theorem step_simulates {ring : ProcessSharedRing α} {queue : BoundedQueue α bound} (call : RingCall α)
    (represents : Represents ring queue) :
    ((machine α).step ring call).1 = ((queueMachine α bound).step queue call).1 ∧
      Represents ((machine α).step ring call).2 ((queueMachine α bound).step queue call).2 := by
  cases call with
  | tryPush item => exact (step_push represents item).simulates represents
  | tryPop =>
    obtain ⟨items, closed, fits⟩ := queue
    cases items with
    | nil =>
      have stays : (machine α).step ring .tryPop = (.popped none, ring) :=
        congrArg (·.map RingAnswer.popped id) (tryPop_empty represents.len)
      rw [stays]
      exact ⟨rfl, represents⟩
    | cons item rest =>
      have taken : (machine α).step ring .tryPop = (.popped (some item), popped ring) :=
        congrArg (·.map RingAnswer.popped id) (tryPop_front represents)
      rw [taken]
      exact ⟨rfl, represents_popped represents⟩
  | close => exact ⟨rfl, represents.capacity, represents.holds, represents.len, rfl⟩
  | cancel =>
    obtain ⟨emptied, _⟩ := drain_empties represents
    exact ⟨rfl, emptied.capacity, emptied.holds, emptied.len, rfl⟩

private theorem ring_simulates_queue (α : Type) (bound : Nat) :
    (machine α).Simulates (queueMachine α bound) Represents where
  answers call represents := (step_simulates call represents).1
  moves call represents := (step_simulates call represents).2

abbrev RingEvent (α : Type) := Machine.Event (ProcessSharedRing α) (RingCall α) (RingAnswer α)

def isPush : RingCall α → Bool
  | .tryPush _ => true
  | _ => false

def refusedAsClosed : RingAnswer α → Bool
  | .pushed (.closed _) => true
  | _ => false

def pushes (past : List (RingEvent α)) : Nat := past.countP (isPush ·.input)

def refusals (past : List (RingEvent α)) : Nat := past.countP (refusedAsClosed ·.output)

private theorem pushes_snoc (past : List (RingEvent α)) (event : RingEvent α) :
    pushes (past ++ [event]) = pushes past + if isPush event.input then 1 else 0 := by
  rw [pushes, List.countP_append, List.countP_singleton, pushes]

private theorem refusals_snoc (past : List (RingEvent α)) (event : RingEvent α) :
    refusals (past ++ [event]) = refusals past + if refusedAsClosed event.output then 1 else 0 := by
  rw [refusals, List.countP_append, List.countP_singleton, refusals]

structure Counted (past : List (RingEvent α)) (ring : ProcessSharedRing α) : Prop where
  pushed : ring.stats.pushed.toNat = pushes past
  answered : ring.stats.pushed.toNat =
    ring.stats.accepted.toNat + ring.stats.droppedNewest.toNat + refusals past
  held : ring.len + ring.stats.yielded.toNat = ring.stats.accepted.toNat

theorem Counted.idle {past : List (RingEvent α)} {ring next : ProcessSharedRing α} {event : RingEvent α}
    (counted : Counted past ring) (quiet : isPush event.input = false) (unrefused : refusedAsClosed event.output = false)
    (pushed : next.stats.pushed = ring.stats.pushed) (accepted : next.stats.accepted = ring.stats.accepted)
    (dropped : next.stats.droppedNewest = ring.stats.droppedNewest)
    (held : next.len + next.stats.yielded.toNat = ring.len + ring.stats.yielded.toNat) :
    Counted (past ++ [event]) next where
  pushed := by rw [pushed, counted.pushed, pushes_snoc, quiet]; rfl
  answered := by rw [pushed, accepted, dropped, counted.answered, refusals_snoc, unrefused]; rfl
  held := by rw [held, accepted, counted.held]

theorem Counted.push {past : List (RingEvent α)} {ring : ProcessSharedRing α} {queue : BoundedQueue α bound}
    {event : RingEvent α} {item : α} {mine theirs} (counted : Counted past ring)
    (offers : Pushes item ring queue mine theirs) (asked : event.input = .tryPush item)
    (answered : event.output = mine.1) (unsaturated : pushes (past ++ [event]) ≤ UInt64.greatest) :
    Counted (past ++ [event]) mine.2 := by
  have grown : pushes (past ++ [event]) = ring.stats.pushed.toNat + 1 := by
    rw [pushes_snoc, counted.pushed, asked]
    rfl
  rw [grown] at unsaturated
  have once : (offered ring).pushed.toNat = ring.stats.pushed.toNat + 1 := UInt64.toNat_saturatingAdd_one unsaturated
  have split := counted.answered
  cases offers with
  | closed refused =>
    have refusal : refusals (past ++ [event]) = refusals past + 1 := by rw [refusals_snoc, answered]; rfl
    refine ⟨once.trans grown.symm, ?_, counted.held⟩
    rw [refusal]
    exact once.trans (congrArg (· + 1) split)
  | full opened filled =>
    have refusal : refusals (past ++ [event]) = refusals past := by rw [refusals_snoc, answered]; rfl
    have dropped : (ring.stats.droppedNewest.saturatingAdd 1).toNat = ring.stats.droppedNewest.toNat + 1 :=
      UInt64.toNat_saturatingAdd_one (by omega)
    refine ⟨once.trans grown.symm, ?_, counted.held⟩
    rw [refusal]
    refine once.trans ?_
    rw [dropped]
    change _ = ring.stats.accepted.toNat + _ + _
    omega
  | accepted opened room fits =>
    have refusal : refusals (past ++ [event]) = refusals past := by rw [refusals_snoc, answered]; rfl
    have accepted : (ring.stats.accepted.saturatingAdd 1).toNat = ring.stats.accepted.toNat + 1 :=
      UInt64.toNat_saturatingAdd_one (by omega)
    refine ⟨once.trans grown.symm, ?_, ?_⟩
    · rw [refusal]
      refine once.trans ?_
      change _ = (ring.stats.accepted.saturatingAdd 1).toNat + ring.stats.droppedNewest.toNat + _
      omega
    · change ring.len + 1 + ring.stats.yielded.toNat = (ring.stats.accepted.saturatingAdd 1).toNat
      have held := counted.held
      omega

theorem Counted.step {past : List (RingEvent α)} {ring : ProcessSharedRing α} {queue : BoundedQueue α bound}
    (represents : Represents ring queue) (counted : Counted past ring) (call : RingCall α)
    (unsaturated : pushes (past ++ [(machine α).event ring call]) ≤ UInt64.greatest) :
    Counted (past ++ [(machine α).event ring call]) ((machine α).step ring call).2 := by
  have below := ring.stats.accepted.toNat_le_greatest
  have held := counted.held
  cases call with
  | tryPush item => exact counted.push (step_push represents item) rfl rfl unsaturated
  | tryPop =>
    obtain ⟨items, closed, fits⟩ := queue
    cases items with
    | nil =>
      have stays : ((machine α).step ring .tryPop).2 = ring := congrArg Prod.snd (tryPop_empty represents.len)
      rw [stays]
      exact counted.idle rfl rfl rfl rfl rfl rfl
    | cons item rest =>
      have taken : ((machine α).step ring .tryPop).2 = popped ring := congrArg Prod.snd (tryPop_front represents)
      rw [taken]
      have longer : ring.len = rest.length + 1 := represents.len
      have left : (popped ring).len = rest.length := (represents_popped represents).len
      have yielded : (popped ring).stats.yielded.toNat = ring.stats.yielded.toNat + 1 :=
        UInt64.toNat_saturatingAdd_one (by omega)
      exact counted.idle rfl rfl rfl rfl rfl (by omega)
  | close => exact counted.idle rfl rfl rfl rfl rfl rfl
  | cancel =>
    obtain ⟨emptied, drained⟩ := drain_empties represents
    have vacant : ring.drain.len = 0 := emptied.len
    have yielded := drained.yielded
    refine counted.idle rfl rfl drained.pushed drained.accepted drained.droppedNewest ?_
    change ring.drain.len + ring.drain.stats.yielded.toNat = _
    omega

/-- What every run of a ring of this capacity shows. -/
structure RefinesQueue (capacity : Nat) (ring : ProcessSharedRing α) (calls : List (RingCall α)) : Prop where
  answers : (machine α).outputs ring calls = (queueMachine α capacity).outputs .empty calls
  head : ((machine α).final ring calls).head < capacity
  len : ((machine α).final ring calls).len = ((queueMachine α capacity).final .empty calls).items.length
  closed : ((machine α).final ring calls).closed = ((queueMachine α capacity).final .empty calls).closed
  occupied : ∀ slot, slot < capacity →
    ((∃ item, ((machine α).final ring calls).slots[slot]? = some (some item)) ↔
      ∃ offset, offset < ((machine α).final ring calls).len ∧
        slot = (((machine α).final ring calls).head + offset) % capacity)
  counted : pushes ((machine α).trace ring calls) ≤ UInt64.greatest →
    Counted ((machine α).trace ring calls) ((machine α).final ring calls)

private theorem counted_run {ring : ProcessSharedRing α} {queue : BoundedQueue α bound}
    (represents : Represents ring queue) (counted : Counted [] ring) (calls : List (RingCall α))
    (unsaturated : pushes ((machine α).trace ring calls) ≤ UInt64.greatest) :
    Counted ((machine α).trace ring calls) ((machine α).final ring calls) := by
  have kept := (machine α).history
    (fun past state => (∃ model : BoundedQueue α bound, Represents state model) ∧
      (pushes past ≤ UInt64.greatest → Counted past state)) ?_ ⟨⟨queue, represents⟩, fun _ => counted⟩ calls
  · exact kept.2 unsaturated
  rintro past state call ⟨⟨model, stands⟩, account⟩
  refine ⟨⟨_, (step_simulates call stands).2⟩, fun few => (account ?_).step stands call few⟩
  rw [pushes_snoc] at few
  exact Nat.le_of_add_right_le few

theorem ring_refines_queue (α : Type) (capacity : Nat) (positive : 1 ≤ capacity) :
    ∃ ring, withCapacity capacity = .ok ring ∧ ∀ calls : List (RingCall α), RefinesQueue capacity ring calls := by
  obtain ⟨ring, created⟩ : ∃ ring : ProcessSharedRing α, withCapacity capacity = .ok ring :=
    ⟨_, dif_neg (Nat.ne_of_gt positive)⟩
  refine ⟨ring, created, fun calls => ?_⟩
  have initial : Represents ring (BoundedQueue.empty : BoundedQueue α capacity) := represents_empty created
  have reached := (ring_simulates_queue α capacity).final initial calls
  have size : ((machine α).final ring calls).slots.length = capacity := reached.capacity
  have fresh : Counted [] ring := by
    unfold withCapacity at created
    split at created
    · cases created
    · cases created
      exact ⟨rfl, rfl, rfl⟩
  refine ⟨(ring_simulates_queue α capacity).outputs initial calls, ?_, reached.len, reached.closed,
    fun slot within => ?_, counted_run initial fresh calls⟩
  · exact Nat.lt_of_lt_of_eq reached.holds.inRange size
  · rw [reached.holds.occupied_iff (Nat.lt_of_lt_of_eq within size.symm), reached.len, size]

theorem ring_refines_queue_of_two : ∃ ring, withCapacity 2 = .ok ring ∧
    ∀ calls : List (RingCall String), RefinesQueue 2 ring calls :=
  ring_refines_queue String 2 (by decide)

end StreamHost.Proofs.RingRefinement
