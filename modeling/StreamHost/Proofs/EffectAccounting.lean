import StreamHost.Lib.Saturating
import StreamHost.MusicEffects
import StreamHost.Proofs.EffectLedger

/-! The account of executed effects over whole runs. An effect counts as executed
when its receipt is returned for the first time; the session's sequence, its
counts and its stored receipts are tied to the effects executed so far. -/

namespace StreamHost.Proofs.EffectAccounting
open Std FakeEffectSession

variable (debugLen : Expr → Nat)

abbrev Past := List (SessionEvent FakeEffectSession)

/-- The receipts of the executed effects, each where it was first returned. -/
def executed (past : Past) : List EffectReceipt := (acknowledged past).eraseDups

def executedOf (id : Symbol) (past : Past) : List EffectReceipt := (executed past).filter (·.descriptor = id)

/-- The event executes an effect: it returns a receipt not returned before. -/
def Executes (past : Past) (event : SessionEvent FakeEffectSession) (receipt : EffectReceipt) : Prop :=
  event.output.acknowledged = some receipt ∧ receipt ∉ acknowledged past

def haltedAfter (halted : Bool) : SessionCall → Bool
  | .start => false
  | .stop => true
  | .poll _ | .invoke _ => halted

def halted (calls : List SessionCall) : Bool := calls.foldl haltedAfter false

section History
variable {past : Past} {event : SessionEvent FakeEffectSession} {receipt : EffectReceipt}

private theorem mem_executed : receipt ∈ executed past ↔ receipt ∈ acknowledged past := List.mem_eraseDups

private theorem executed_silent (silent : event.output.acknowledged = none) : executed (past ++ [event]) = executed past := by
  rw [executed, acknowledged_snoc, silent, Option.toList_none, List.append_nil, ← executed]

private theorem executed_repeated (answered : event.output.acknowledged = some receipt)
    (known : receipt ∈ acknowledged past) : executed (past ++ [event]) = executed past := by
  rw [executed, acknowledged_snoc, answered, List.eraseDups_append, ← executed]
  simp [List.removeAll, known]

private theorem executed_first (executes : Executes past event receipt) :
    executed (past ++ [event]) = executed past ++ [receipt] := by
  rw [executed, acknowledged_snoc, executes.1, List.eraseDups_append, ← executed]
  simp [List.removeAll, executes.2, List.eraseDups_cons]

private theorem executed_grows (past later : Past) : (executed past).length ≤ (executed (past ++ later)).length := by
  simp only [executed, acknowledged, List.filterMap_append, List.eraseDups_append, List.length_append]
  exact Nat.le_add_right _ _

private theorem halted_snoc (past : Past) (event : SessionEvent FakeEffectSession) :
    halted ((past ++ [event]).map (·.input)) = haltedAfter (halted (past.map (·.input))) event.input := by
  rw [halted, List.map_append, List.foldl_append]
  rfl

end History

/-- The session's counters and stored receipts account for the executed effects. -/
structure Accounted (registry : EffectRegistry) (past : Past) (session : FakeEffectSession) : Prop where
  reads : session.registry = registry
  running : session.stopped = halted (past.map (·.input))
  sequence : session.sequence.toNat = (executed past).length
  counts : ∀ id, (session.count id).toNat = (executedOf id past).length
  within : ∀ id descriptor, registry.get id = some descriptor →
    (executedOf id past).length ≤ descriptor.bounds.maxInvocations.toNat
  numbered : (executed past).map (·.sequence.toNat) = List.range' 1 (executed past).length
  stored : ∀ (key : String) (receipt : EffectReceipt),
    session.receipts[key]? = some receipt → receipt ∈ acknowledged past

private theorem accounted_new (profile : DeviceProfile) (registry : EffectRegistry) :
    Accounted registry [] (.new profile registry) := by
  have empty : ∀ id, executedOf id [] = [] := fun _ => rfl
  refine ⟨rfl, rfl, rfl, fun id => ?_, fun id _ _ => ?_, rfl, fun key receipt found => ?_⟩
  · simp [empty, count, FakeEffectSession.new]
  · simp [empty]
  · simp [FakeEffectSession.new] at found

theorem Accounted.idle {registry past session event after} (accounted : Accounted registry past session)
    (same : executed (past ++ [event]) = executed past) (ledger : SameLedger session after)
    (reads : after.registry = session.registry)
    (running : after.stopped = halted ((past ++ [event]).map (·.input))) :
    Accounted registry (past ++ [event]) after where
  reads := reads.trans accounted.reads
  running := running
  sequence := by rw [ledger.sequence, same]; exact accounted.sequence
  counts id := by rw [ledger.counts, executedOf, same]; exact accounted.counts id
  within id := by rw [executedOf, same]; exact accounted.within id
  numbered := by rw [same]; exact accounted.numbered
  stored key receipt found := by
    rw [ledger.receipts] at found
    rw [acknowledged_snoc]
    exact List.mem_append_left _ (accounted.stored key receipt found)

/-- The next receipt was not returned before, even if its sequence wraps to zero. -/
theorem Accounted.unseen {registry past session} (accounted : Accounted registry past session)
    (descriptor : EffectDescriptor) : session.nextReceipt descriptor ∉ acknowledged past := by
  intro known
  have listed : (session.sequence + 1).toNat ∈ (executed past).map (·.sequence.toNat) :=
    List.mem_map_of_mem (mem_executed.mpr known)
  rw [accounted.numbered, List.mem_range'_1, ← accounted.sequence, UInt64.toNat_add, UInt64.toNat_one] at listed
  have bound := session.sequence.toNat_lt
  omega

theorem Accounted.execute {registry past session request descriptor event}
    (accounted : Accounted registry past session) (admitted : Admitted debugLen session descriptor request)
    (left : session.count request.descriptor < descriptor.bounds.maxInvocations)
    (asked : event.input = .invoke request)
    (answered : event.output.acknowledged = some (session.nextReceipt descriptor))
    (fewer : (executed (past ++ [event])).length < 2 ^ 64) :
    Accounted registry (past ++ [event]) ((session.touch request.descriptor).execute descriptor request).2 := by
  have first : Executes past event (session.nextReceipt descriptor) := ⟨answered, accounted.unseen descriptor⟩
  have grown := executed_first first
  have next : (session.nextReceipt descriptor).sequence.toNat = (executed past).length + 1 := by
    rw [grown, List.length_append, List.length_singleton, ← accounted.sequence] at fewer
    rw [← accounted.sequence]
    exact UInt64.toNat_succ_of_lt (Nat.lt_sub_of_add_lt fewer)
  have grownOf (id : Symbol) : (executedOf id (past ++ [event])).length =
      (executedOf id past).length + if request.descriptor = id then 1 else 0 := by
    rw [executedOf, grown, List.filter_append, List.length_append, ← executedOf]
    by_cases same : request.descriptor = id <;> simp [nextReceipt, admitted.named, same]
  refine ⟨accounted.reads, ?_, ?_, fun id => ?_, fun id other found => ?_, ?_, fun key receipt found => ?_⟩
  · rw [halted_snoc, asked]
    exact accounted.running
  · rw [grown, List.length_append]
    exact next
  · rw [execute_count, touch_count, grownOf, ← accounted.counts]
    split
    · rename_i same
      rw [same] at left
      exact UInt64.toNat_succ_of_lt (Nat.lt_of_lt_of_le left (UInt64.toNat_le_greatest _))
    · rfl
  · rw [grownOf]
    split
    · rename_i same
      obtain rfl : descriptor = other := by
        rw [← accounted.reads, ← same, admitted.registered] at found
        exact Option.some.inj found
      rw [← accounted.counts, ← same]
      exact left
    · exact accounted.within id other found
  · rw [grown, List.map_append, accounted.numbered, List.length_append, List.map_singleton, next,
      List.length_singleton, List.range'_1_concat, Nat.add_comm]
  · rw [execute_receipts] at found
    rw [acknowledged_snoc, answered, Option.toList_some]
    split at found
    · cases found
      exact List.mem_append_right _ (List.mem_singleton_self _)
    · exact List.mem_append_left _ (accounted.stored key receipt found)

theorem Accounted.step {registry past session} (accounted : Accounted registry past session) (call : SessionCall)
    (fewer : (executed (past ++ [(machine debugLen).event session call])).length < 2 ^ 64) :
    Accounted registry (past ++ [(machine debugLen).event session call]) ((machine debugLen).step session call).2 := by
  have moved : haltedAfter session.stopped call =
      halted ((past ++ [(machine debugLen).event session call]).map (·.input)) := by
    rw [halted_snoc, accounted.running]
    rfl
  cases call with
  | start => exact accounted.idle (executed_silent rfl) ⟨rfl, fun _ => rfl, rfl⟩ rfl moved
  | stop => exact accounted.idle (executed_silent rfl) ⟨rfl, fun _ => rfl, rfl⟩ rfl moved
  | poll kind => exact accounted.idle (executed_silent rfl) ⟨rfl, fun _ => rfl, rfl⟩ rfl moved
  | invoke request =>
    have answered : ((machine debugLen).event session (.invoke request)).output =
        .receipt (session.invoke debugLen request).1 := rfl
    have asked : ((machine debugLen).event session (.invoke request)).input = .invoke request := rfl
    rw [step_invoke]
    generalize (machine debugLen).event session (.invoke request) = event at *
    generalize same : session.invoke debugLen request = result at *
    have outcome := invoke_outcome debugLen session request
    rw [same] at outcome
    cases outcome with
    | refused =>
      exact accounted.idle (executed_silent (by rw [answered]; rfl)) (.refl session) rfl moved
    | exhausted admitted spent =>
      exact accounted.idle (executed_silent (by rw [answered]; rfl)) (.touch session _) rfl moved
    | @replayed receipt descriptor admitted left stored =>
      obtain ⟨key, _, found⟩ := Option.bind_eq_some_iff.mp stored
      exact accounted.idle (executed_repeated (by rw [answered]; rfl) (accounted.stored key receipt found))
        (.touch session _) rfl moved
    | executed admitted left unused =>
      exact accounted.execute debugLen admitted left asked (by rw [answered]; rfl) fewer

private theorem accounted_run (profile : DeviceProfile) (registry : EffectRegistry) (calls : List SessionCall)
    (fewer : (executed ((machine debugLen).trace (.new profile registry) calls)).length < 2 ^ 64) :
    Accounted registry ((machine debugLen).trace (.new profile registry) calls)
      ((machine debugLen).final (.new profile registry) calls) :=
  (machine debugLen).history
    (fun past session => (executed past).length < 2 ^ 64 → Accounted registry past session)
    (fun past _ call accounted fewer => (accounted (Nat.lt_of_le_of_lt (executed_grows past _) fewer)).step
      debugLen call fewer)
    (fun _ => accounted_new profile registry) calls fewer

/-- What a run of the fake session promises about the effects it executes. -/
structure EffectsAccounted (registry : EffectRegistry) (run : Past) : Prop where
  bounded : ∀ id descriptor, registry.get id = some descriptor →
    (executedOf id run).length ≤ descriptor.bounds.maxInvocations.toNat
  numbered : (executed run).map (·.sequence.toNat) = List.range' 1 (executed run).length
  authorized : ∀ past event later receipt, run = past ++ event :: later → Executes past event receipt →
    ∃ request descriptor, event.input = .invoke request ∧ receipt.descriptor = request.descriptor ∧
      registry.get request.descriptor = some descriptor ∧ descriptor.authorize debugLen request = .ok () ∧
      halted (past.map (·.input)) = false
  refused : ∀ event ∈ run, ∀ error, event.output = .receipt (.error error) → SameLedger event.before event.after

private theorem Accounted.executes_admitted {registry past session call receipt}
    (accounted : Accounted registry past session)
    (executes : Executes past ((machine debugLen).event session call) receipt) :
    ∃ request descriptor, call = .invoke request ∧ receipt = session.nextReceipt descriptor ∧
      Admitted debugLen session descriptor request := by
  obtain ⟨answered, unseen⟩ := executes
  cases call with
  | start | stop | poll _ => cases answered
  | invoke request =>
    rw [Machine.event_output, step_invoke, SessionAnswer.acknowledged_eq_some, SessionAnswer.receipt.injEq] at answered
    generalize same : session.invoke debugLen request = result at answered
    have outcome := invoke_outcome debugLen session request
    rw [same] at outcome
    cases outcome with
    | refused | exhausted => cases answered
    | replayed admitted left stored =>
      cases answered
      obtain ⟨key, _, found⟩ := Option.bind_eq_some_iff.mp stored
      exact absurd (accounted.stored key receipt found) unseen
    | @executed descriptor admitted left unused =>
      cases answered
      exact ⟨request, descriptor, rfl, rfl, admitted⟩

/-- Executed effects stay within their bounds, are numbered without gaps, and come
only from admitted requests; a refusal changes nothing. -/
theorem effects_accounted (profile : DeviceProfile) (registry : EffectRegistry) (calls : List SessionCall)
    (fewer : (executed ((machine debugLen).trace (.new profile registry) calls)).length < 2 ^ 64) :
    EffectsAccounted debugLen registry ((machine debugLen).trace (.new profile registry) calls) := by
  have accounted := accounted_run debugLen profile registry calls fewer
  refine ⟨accounted.within, accounted.numbered, ?_, ?_⟩
  · intro past event later receipt split executes
    obtain ⟨earlier, rfl, same⟩ := (machine debugLen).trace_split split
    have fewerBefore : (executed ((machine debugLen).trace (.new profile registry) earlier)).length < 2 ^ 64 := by
      rw [split] at fewer
      exact Nat.lt_of_le_of_lt (executed_grows _ _) fewer
    have before := accounted_run debugLen profile registry earlier fewerBefore
    rw [same] at executes
    obtain ⟨request, descriptor, asked, rfl, admitted⟩ := before.executes_admitted debugLen executes
    refine ⟨request, descriptor, asked, admitted.named, ?_, admitted.authorized, ?_⟩
    · rw [← before.reads]
      exact admitted.registered
    · rw [← before.running]
      exact admitted.running
  · intro event member error failed
    obtain ⟨earlier, _, _, same⟩ := (machine debugLen).mem_trace.mp member
    rw [same] at failed ⊢
    generalize event.input = call at failed
    cases call with
    | start | stop | poll _ => cases failed
    | invoke request => exact invoke_error_keeps (Prod.ext (SessionAnswer.receipt.inj failed) rfl)

/-- A send, its retry, a request while stopped and an effect after the restart. -/
theorem effects_accounted_across_stop :
    ∃ registry, musicEffectRegistry = .ok registry ∧
      EffectsAccounted (fun _ => 10) registry ((machine fun _ => 10).trace (.new noProfile registry)
        [.invoke (musicRequest .midiSend "first" 10 11), .invoke (musicRequest .midiSend "first" 12 13), .stop,
          .invoke (musicRequest .audioRouteOpen "second" 14 15), .start,
          .invoke (musicRequest .audioRouteOpen "second" 16 17)]) := by
  obtain ⟨registry, accepted, two⟩ : ∃ registry, musicEffectRegistry = .ok registry ∧
      (executed ((machine fun _ => 10).trace (.new noProfile registry)
        [.invoke (musicRequest .midiSend "first" 10 11), .invoke (musicRequest .midiSend "first" 12 13), .stop,
          .invoke (musicRequest .audioRouteOpen "second" 14 15), .start,
          .invoke (musicRequest .audioRouteOpen "second" 16 17)])).length = 2 := by decide
  exact ⟨registry, accepted, effects_accounted _ noProfile registry _ (by rw [two]; decide)⟩

end StreamHost.Proofs.EffectAccounting
