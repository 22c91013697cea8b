import StreamHost.Proofs.PlanEnforcement
import StreamHost.RtpMidi

/-! Which of the packets acknowledged by an RTP-MIDI port are queued or drained. The
outcome of the push is dropped, so a packet that the queue refused is acknowledged
as well. -/

namespace StreamHost

variable {ν μ : Type}

/-- The stream is a bounded queue that drops the newest item, seen through `view`. -/
structure PushStream.DropsNewest (stream : PushStream ν μ) (view : ν → BoundedItems μ) : Prop where
  fresh : ∀ metadata, view (stream.fresh metadata) = (boundedStream μ).fresh metadata
  pushPacket : ∀ item state, (stream.pushPacket item state).map id view = (boundedStream μ).pushPacket item (view state)
  takePackets : ∀ limit state,
    (stream.takePackets limit state).map id view = (boundedStream μ).takePackets limit (view state)
  closePush : ∀ state, (stream.closePush state).map id view = (boundedStream μ).closePush (view state)

theorem boundedStream_stores {state : BoundedItems μ} (room : state.2.HasRoom) (item : StreamItem μ) :
    ((boundedStream μ).pushPacket item state).2.2.items = state.2.items ++ [item] := by
  obtain ⟨next, pushed, grown⟩ := BoundedQueue.push_room room item
  have stored : ((boundedStream μ).pushPacket item state).2 = ⟨state.1, next⟩ := by simp only [boundedStream, pushed]
  rw [stored]
  exact grown

theorem boundedStream_refuses {state : BoundedItems μ} (refused : ¬ state.2.HasRoom) (item : StreamItem μ) :
    ((boundedStream μ).pushPacket item state).2 = state := by
  obtain ⟨refusal, pushed⟩ := BoundedQueue.push_refused refused item
  cases refusal <;> simp only [boundedStream, pushed]

/-- Whatever becomes of the item, the push is answered with Ok. -/
theorem boundedStream_answers (state : BoundedItems μ) (item : StreamItem μ) :
    ∃ outcome, ((boundedStream μ).pushPacket item state).1 = .ok outcome := by
  simp only [boundedStream]
  split <;> exact ⟨_, rfl⟩

namespace Proofs.PacketReceipts

variable {κ ε : Type} {stream : PushStream ν μ} {view : ν → BoundedItems μ}
  {fromItem : StreamMetadata → UInt64 → StreamItem μ → Result ε}

abbrev PortEvent (ν μ ε : Type) := Machine.Event (RtpMidiPort ν) (PortCall μ) (PortAnswer μ ε)

def midiItem (packet : μ) : StreamItem μ := ⟨.midi packet⟩

/-- The item of a receive call that returned Ok. -/
def acknowledged : PortCall μ → PortAnswer μ ε → Option (StreamItem μ)
  | .receiveEnvelope _ packet, .envelope (.ok _) | .receivePacket packet, .received (.ok ()) => some (midiItem packet)
  | _, _ => none

/-- The items that a drain handed out. -/
def drained : PortAnswer μ ε → List (StreamItem μ)
  | .drained (.ok items) => items
  | _ => []

/-- The item that a call takes to the queue: every packet, and every packet whose envelope can be built. -/
def offered (fromItem : StreamMetadata → UInt64 → StreamItem μ → Result ε) (port : RtpMidiPort ν) :
    PortCall μ → Option (StreamItem μ)
  | .receiveEnvelope sequence packet =>
    if (fromItem port.spec.metadata sequence (midiItem packet)).isOk then some (midiItem packet) else none
  | .receivePacket packet => some (midiItem packet)
  | .drain _ | .close => none

def state (view : ν → BoundedItems μ) (port : RtpMidiPort ν) : BoundedItems μ := view port.queue.stream.state

def queued (view : ν → BoundedItems μ) (port : RtpMidiPort ν) : List (StreamItem μ) := (state view port).2.items

def HasRoom (view : ν → BoundedItems μ) (port : RtpMidiPort ν) : Prop := (state view port).2.HasRoom

instance (port : RtpMidiPort ν) : Decidable (HasRoom view port) := inferInstanceAs (Decidable (BoundedQueue.HasRoom _))

/-- A port takes MIDI, and is not a sink. -/
def Accepting (port : RtpMidiPort ν) : Prop := port.queue.media = .midi ∧ port.queue.direction ≠ .sink

private theorem openSource_ok {context : HostContext κ} {cx : κ} {spec : HostDeviceSpec} {port : RtpMidiPort ν}
    (drops : stream.DropsNewest view) (opened : (RtpMidiBackend.openSource context stream cx spec).1 = .ok port) :
    Accepting port ∧ queued view port = [] := by
  unfold RtpMidiBackend.openSource at opened
  split at opened
  · cases opened
  split at opened
  · cases opened
  split at opened
  · cases opened
  rename_i media direction
  rcases enforced : spec.openPlan.enforce context cx with ⟨error | _, after⟩
  · rw [enforced] at opened
    cases opened
  rw [enforced] at opened
  cases opened
  refine ⟨⟨not_not.mp media, ?_⟩, ?_⟩
  · change spec.direction.streamDirection ≠ .sink
    cases facing : spec.direction with
    | output => exact absurd facing direction
    | input | duplex => exact nofun
  · change (view (stream.fresh spec.metadata)).2.items = []
    rw [drops.fresh]
    rfl

section Step
variable (drops : stream.DropsNewest view) {port : RtpMidiPort ν} (accepting : Accepting port)

include accepting in
private theorem callbackItem_pushes (packet : μ) :
    port.queue.callbackItem stream (midiItem packet) = port.queue.onStream (stream.pushPacket (midiItem packet)) := by
  have input : port.queue.ensureCallbackInput = .ok () := Except.rejectIf_eq_ok.mpr accepting.2
  have media : port.queue.ensureMedia (midiItem packet).packet = .ok () :=
    Except.rejectIf_eq_ok.mpr (not_not.mpr accepting.1.symm)
  rw [HostCallbackQueue.callbackItem, input]
  simp only [media]

/-- What one call does: the queue takes the offered item if it has room, and hands out the drained ones. -/
structure Moves (view : ν → BoundedItems μ) (fromItem : StreamMetadata → UInt64 → StreamItem μ → Result ε)
    (port : RtpMidiPort ν) (call : PortCall μ) (result : PortAnswer μ ε × RtpMidiPort ν) : Prop where
  accepting : Accepting result.2
  acknowledged : acknowledged call result.1 = offered fromItem port call
  moved : queued view port ++ (if HasRoom view port then offered fromItem port call else none).toList =
    drained result.1 ++ queued view result.2

theorem Moves.idle {call : PortCall μ} {answer : PortAnswer μ ε} {after : RtpMidiPort ν} (accepting : Accepting after)
    (unanswered : PacketReceipts.acknowledged call answer = none) (unoffered : offered fromItem port call = none)
    (moved : queued view port = drained answer ++ queued view after) : Moves view fromItem port call (answer, after) := by
  refine ⟨accepting, unanswered.trans unoffered.symm, ?_⟩
  rw [unoffered, ite_self, Option.toList_none, List.append_nil, moved]

/-- A push of a packet, whatever is made of its outcome. -/
structure Pushed (view : ν → BoundedItems μ) (port after : RtpMidiPort ν) (packet : μ) : Prop where
  accepting : Accepting after
  queued : queued view port ++ (if HasRoom view port then some (midiItem packet) else none).toList =
    PacketReceipts.queued view after

include drops accepting in
private theorem callbackItem_pushed (packet : μ) :
    ∃ outcome queue, port.queue.callbackItem stream (midiItem packet) = (.ok outcome, queue) ∧
      Pushed view port { port with queue } packet := by
  rw [callbackItem_pushes accepting]
  have pushed := drops.pushPacket (midiItem packet) port.queue.stream.state
  obtain ⟨outcome, answered⟩ := boundedStream_answers (view port.queue.stream.state) (midiItem packet)
  refine ⟨outcome, _, Prod.ext ?_ rfl, accepting, ?_⟩
  · exact (congrArg Prod.fst pushed).trans answered
  · have after : view (stream.pushPacket (midiItem packet) port.queue.stream.state).2 =
        ((boundedStream μ).pushPacket (midiItem packet) (state view port)).2 := congrArg Prod.snd pushed
    change _ = (view (stream.pushPacket (midiItem packet) port.queue.stream.state).2).2.items
    rw [after]
    by_cases room : HasRoom view port
    · rw [if_pos room, boundedStream_stores room]
      rfl
    · rw [if_neg room, boundedStream_refuses room]
      exact List.append_nil _

include drops accepting in
private theorem receivePacket_moves (packet : μ) : Moves view fromItem port (.receivePacket packet)
    ((RtpMidiPort.machine stream fromItem).step port (.receivePacket packet)) := by
  obtain ⟨outcome, queue, pushes, pushed⟩ := callbackItem_pushed drops accepting packet
  have step : (RtpMidiPort.machine stream fromItem).step port (.receivePacket packet) =
      (.received (.ok ()), { port with queue }) := by
    change ((port.queue.callbackItem stream (midiItem packet)).map _ _).map _ _ = _
    rw [pushes]
    rfl
  rw [step]
  exact ⟨pushed.accepting, rfl, pushed.queued⟩

include drops accepting in
private theorem receiveEnvelope_moves (sequence : UInt64) (packet : μ) :
    Moves view fromItem port (.receiveEnvelope sequence packet)
      ((port.receiveEnvelopeFromCallback stream fromItem sequence packet).map .envelope id) := by
  rw [RtpMidiPort.receiveEnvelopeFromCallback, ← midiItem]
  cases built : fromItem port.spec.metadata sequence (midiItem packet) with
  | error error =>
    have unoffered : offered fromItem port (.receiveEnvelope sequence packet) = none := by rw [offered, built]; rfl
    exact .idle accepting rfl unoffered rfl
  | ok envelope =>
    obtain ⟨outcome, queue, pushes, pushed⟩ := callbackItem_pushed drops accepting packet
    have offers : offered fromItem port (.receiveEnvelope sequence packet) = some (midiItem packet) := by
      rw [offered, built]; rfl
    simp only [pushes]
    refine ⟨pushed.accepting, offers.symm, ?_⟩
    rw [offers]
    exact pushed.queued

include drops accepting in
private theorem drain_moves (limit : UInt64) :
    Moves view fromItem port (.drain limit) ((port.drain stream limit).map .drained id) := by
  have taken := drops.takePackets limit port.queue.stream.state
  have items : (port.drain stream limit).1 = .ok ((queued view port).take limit.toNat) := congrArg Prod.fst taken
  have rest : state view (port.drain stream limit).2 = ((boundedStream μ).takePackets limit (state view port)).2 :=
    congrArg Prod.snd taken
  have moved : queued view port =
      drained (.drained (port.drain stream limit).1 : PortAnswer μ ε) ++ queued view (port.drain stream limit).2 := by
    rw [items, drained, queued, queued, rest]
    exact (List.take_append_drop limit.toNat (queued view port)).symm
  exact .idle accepting rfl rfl moved

include drops accepting in
private theorem close_moves : Moves view fromItem port .close ((port.close stream).map .closed id) := by
  have closed : state view (port.close stream).2 = ((boundedStream μ).closePush (state view port)).2 :=
    congrArg Prod.snd (drops.closePush port.queue.stream.state)
  have kept : queued view port = queued view (port.close stream).2 := by
    rw [queued, queued, closed]
    rfl
  exact .idle accepting rfl rfl kept

include drops accepting in
private theorem step_moves (call : PortCall μ) :
    Moves view fromItem port call ((RtpMidiPort.machine stream fromItem).step port call) := by
  cases call with
  | receiveEnvelope sequence packet => exact receiveEnvelope_moves drops accepting sequence packet
  | receivePacket packet => exact receivePacket_moves drops accepting packet
  | drain limit => exact drain_moves drops accepting limit
  | close => exact close_moves drops accepting

end Step

section Run

def acknowledgedItems (trace : List (PortEvent ν μ ε)) : List (StreamItem μ) :=
  trace.filterMap fun event => acknowledged event.input event.output

def drainedItems (trace : List (PortEvent ν μ ε)) : List (StreamItem μ) :=
  trace.flatMap fun event => drained event.output

def offeredItems (fromItem : StreamMetadata → UInt64 → StreamItem μ → Result ε) (trace : List (PortEvent ν μ ε)) :
    List (StreamItem μ) := trace.filterMap fun event => offered fromItem event.before event.input

def storedItems (view : ν → BoundedItems μ) (fromItem : StreamMetadata → UInt64 → StreamItem μ → Result ε)
    (trace : List (PortEvent ν μ ε)) : List (StreamItem μ) :=
  trace.filterMap fun event => if HasRoom view event.before then offered fromItem event.before event.input else none

/-- Every offered item is acknowledged; the queue has got those it had room for. -/
structure Conserves (view : ν → BoundedItems μ) (fromItem : StreamMetadata → UInt64 → StreamItem μ → Result ε)
    (past : List (PortEvent ν μ ε)) (port : RtpMidiPort ν) : Prop where
  accepting : Accepting port
  acknowledged : acknowledgedItems past = offeredItems fromItem past
  stored : storedItems view fromItem past = drainedItems past ++ queued view port

private theorem filterMap_snoc {α β : Type} (pick : α → Option β) (items : List α) (last : α) :
    (items ++ [last]).filterMap pick = items.filterMap pick ++ (pick last).toList := by
  rw [List.filterMap_append]
  cases picked : pick last <;> simp [picked]

theorem Conserves.step (drops : stream.DropsNewest view) {past : List (PortEvent ν μ ε)} {port : RtpMidiPort ν}
    (conserves : Conserves view fromItem past port) (call : PortCall μ) :
    Conserves view fromItem (past ++ [(RtpMidiPort.machine stream fromItem).event port call])
      ((RtpMidiPort.machine stream fromItem).step port call).2 := by
  have moves : Moves view fromItem port call ((RtpMidiPort.machine stream fromItem).step port call) :=
    step_moves drops conserves.accepting call
  refine ⟨moves.accepting, ?_, ?_⟩
  · rw [acknowledgedItems, offeredItems, filterMap_snoc, filterMap_snoc]
    exact congrArg₂ _ conserves.acknowledged (congrArg _ moves.acknowledged)
  · have grown : storedItems view fromItem (past ++ [(RtpMidiPort.machine stream fromItem).event port call]) =
        storedItems view fromItem past ++ (if HasRoom view port then offered fromItem port call else none).toList :=
      filterMap_snoc ..
    rw [grown, conserves.stored, List.append_assoc, moves.moved, drainedItems, drainedItems, List.flatMap_append,
      List.flatMap_singleton, List.append_assoc]
    rfl

private theorem run_conserves (drops : stream.DropsNewest view) {port : RtpMidiPort ν} (accepting : Accepting port)
    (vacant : queued view port = []) (calls : List (PortCall μ)) :
    Conserves view fromItem ((RtpMidiPort.machine stream fromItem).trace port calls)
      ((RtpMidiPort.machine stream fromItem).final port calls) :=
  Machine.history _ (Conserves view fromItem) (fun _ _ call conserves => conserves.step drops call)
    ⟨accepting, rfl, by rw [vacant]; rfl⟩ calls

section Pick
variable {α β : Type} {kept : α → Prop} [DecidablePred kept] {pick : α → Option β} {items : List α}

private theorem length_filterMap_ite_le :
    (items.filterMap fun item => if kept item then pick item else none).length ≤ (items.filterMap pick).length := by
  induction items with
  | nil => exact Nat.le_refl _
  | cons item rest ih =>
    rw [List.filterMap_cons, List.filterMap_cons]
    by_cases keeps : kept item <;> cases pick item <;> simp [keeps] <;> omega

/-- Picking from some items only picks as much as picking from all of them exactly if nothing is picked from the rest. -/
theorem filterMap_ite_eq_iff :
    items.filterMap (fun item => if kept item then pick item else none) = items.filterMap pick ↔
      ∀ item ∈ items, pick item ≠ none → kept item := by
  induction items with
  | nil => exact iff_of_true rfl nofun
  | cons item rest ih =>
    rw [List.forall_mem_cons, List.filterMap_cons, List.filterMap_cons]
    refine Iff.trans ?_ (and_congr_right fun _ => ih)
    cases picked : pick item with
    | none => simp
    | some value =>
      by_cases keeps : kept item
      · simp [keeps]
      · -- The picked value is missing on the left, where no more is picked than on the right.
        have short : (rest.filterMap fun item => if kept item then pick item else none).length ≤
            (rest.filterMap pick).length := length_filterMap_ite_le
        simp only [keeps, if_false, ne_eq, reduceCtorEq, not_false_eq_true, forall_const, false_and, iff_false]
        intro same
        have long := congrArg List.length same
        rw [List.length_cons] at long
        omega

end Pick

/-- The acknowledged packets are those drained or queued exactly as long as every
packet taken to the queue finds room there. -/
theorem acknowledged_kept_iff (drops : stream.DropsNewest view) {context : HostContext κ} {cx : κ} {spec : HostDeviceSpec}
    {port : RtpMidiPort ν} (opened : (RtpMidiBackend.openSource context stream cx spec).1 = .ok port)
    (fromItem : StreamMetadata → UInt64 → StreamItem μ → Result ε) (calls : List (PortCall μ)) :
    acknowledgedItems ((RtpMidiPort.machine stream fromItem).trace port calls) =
        drainedItems ((RtpMidiPort.machine stream fromItem).trace port calls) ++
          queued view ((RtpMidiPort.machine stream fromItem).final port calls) ↔
      ∀ event ∈ (RtpMidiPort.machine stream fromItem).trace port calls,
        offered fromItem event.before event.input ≠ none → HasRoom view event.before := by
  obtain ⟨accepting, vacant⟩ := openSource_ok drops opened
  have conserves : Conserves view fromItem _ _ := run_conserves drops accepting vacant calls
  obtain ⟨_, acknowledged, stored⟩ := conserves
  rw [acknowledged, ← stored, eq_comm]
  exact filterMap_ite_eq_iff

end Run

private theorem boundedStream_drops (μ : Type) : (boundedStream μ).DropsNewest id :=
  ⟨fun _ => rfl, fun _ _ => rfl, fun _ _ => rfl, fun _ => rfl⟩

def narrowSpec : HostDeviceSpec := ⟨.new "rtp-midi/test", rtpMidiBackendSymbol, .midi, .input, .new "clock", ⟨1⟩⟩

def narrowPort : RtpMidiPort (BoundedItems Nat) := ⟨narrowSpec, .new (.push (boundedStream Nat) narrowSpec.metadata)⟩

private theorem narrowPort_opened : (RtpMidiBackend.openSource plainContext (boundedStream Nat) ([streamHostCapability], [])
    narrowSpec).1 = .ok narrowPort := rfl

/-- A queue for one packet acknowledges two. -/
theorem second_packet_lost :
    ¬ ∀ (κ ν μ ε : Type) (stream : PushStream ν μ) (view : ν → BoundedItems μ) (context : HostContext κ) (cx : κ)
      (spec : HostDeviceSpec) (port : RtpMidiPort ν) (fromItem : StreamMetadata → UInt64 → StreamItem μ → Result ε)
      (calls : List (PortCall μ)), stream.DropsNewest view →
      (RtpMidiBackend.openSource context stream cx spec).1 = .ok port →
      acknowledgedItems ((RtpMidiPort.machine stream fromItem).trace port calls) =
        drainedItems ((RtpMidiPort.machine stream fromItem).trace port calls) ++
          queued view ((RtpMidiPort.machine stream fromItem).final port calls) := by
  intro always
  have kept := always _ _ _ Unit (boundedStream Nat) id plainContext ([streamHostCapability], []) narrowSpec narrowPort
    (fun _ _ _ => .ok ()) [.receivePacket 0, .receivePacket 1] (boundedStream_drops Nat) narrowPort_opened
  exact absurd kept (by decide)

theorem drained_between_kept_iff :
    acknowledgedItems ((RtpMidiPort.machine (boundedStream Nat) fun _ _ _ => .ok ()).trace narrowPort
        [.receivePacket 0, .drain 8, .receivePacket 1]) =
      drainedItems ((RtpMidiPort.machine (boundedStream Nat) fun _ _ _ => .ok ()).trace narrowPort
        [.receivePacket 0, .drain 8, .receivePacket 1]) ++
        queued id ((RtpMidiPort.machine (boundedStream Nat) fun _ _ _ => Except.ok ()).final narrowPort
          [.receivePacket 0, .drain 8, .receivePacket 1]) ↔
      ∀ event ∈ (RtpMidiPort.machine (boundedStream Nat) fun _ _ _ => .ok ()).trace narrowPort
        [.receivePacket 0, .drain 8, .receivePacket 1],
        offered (fun _ _ _ => Except.ok ()) event.before event.input ≠ none → HasRoom id event.before :=
  acknowledged_kept_iff (boundedStream_drops Nat) narrowPort_opened (fun _ _ _ => .ok ())
    [.receivePacket 0, .drain 8, .receivePacket 1]

end Proofs.PacketReceipts

end StreamHost
