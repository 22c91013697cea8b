import StreamHost.Proofs.HaloDisplay

/-! Deferred cells converge. Committing a changed cell makes its place the target's,
so the changed cells of the next call are the cells deferred by this one, and
their number goes down to none. -/

namespace StreamHost.Proofs.FrameConvergence
open Std Halo LuaFrameScheduler

section Order

abbrev cellOrder : LuaCell → LuaCell → Ordering :=
  compareLex (compareOn LuaCell.priority) (compareLex (compareOn LuaCell.region) (compareOn LuaCell.index))

theorem schedulesBefore_trans (first second third : LuaCell) (before : first.schedulesBefore second = true)
    (after : second.schedulesBefore third = true) : first.schedulesBefore third = true :=
  TransCmp.isLE_trans before after

theorem schedulesBefore_total (first second : LuaCell) :
    (first.schedulesBefore second || second.schedulesBefore first) = true := by
  have swap : cellOrder second first = (cellOrder first second).swap := OrientedCmp.eq_swap
  change ((cellOrder first second).isLE || (cellOrder second first).isLE) = true
  rw [swap]
  cases cellOrder first second <;> rfl

theorem schedulesBefore_key {first second : LuaCell} (before : first.schedulesBefore second = true)
    (after : second.schedulesBefore first = true) : first.key = second.key := by
  have same : cellOrder first second = .eq := OrientedCmp.isLE_antisymm before after
  obtain ⟨_, same⟩ := Ordering.then_eq_eq.mp same
  obtain ⟨region, index⟩ := Ordering.then_eq_eq.mp same
  simp only [compareOn, Std.compare_eq_iff_eq] at region index
  rw [LuaCell.key, LuaCell.key, region, index]

end Order

section Changed
variable {before target : LuaFrameState}

theorem changedCell_eq_none {key : CellKey} : changedCell before target key = none ↔ before.cells[key]? = target.cells[key]? := by
  simp only [changedCell, ite_eq_left_iff, reduceCtorEq, imp_false, not_not]

private theorem changedCell_congr {other : LuaFrameState} {key : CellKey} (same : before.cells[key]? = other.cells[key]?) :
    changedCell before target key = changedCell other target key := by
  simp only [changedCell, same]

theorem mem_changedCells {cell : LuaCell} :
    cell ∈ changedCells before target ↔ changedCell before target cell.key = some cell := by
  unfold changedCells
  rw [List.mem_filterMap]
  constructor
  · rintro ⟨key, _, changed⟩
    rwa [changedCell_key before target changed]
  · intro changed
    refine ⟨cell.key, ?_, changed⟩
    rw [ExtTreeSet.mem_toList, ExtTreeSet.mem_ofList, List.contains_iff_mem, List.mem_append, ExtTreeMap.mem_keys,
      ExtTreeMap.mem_keys]
    by_contra absent
    obtain ⟨notBefore, notTarget⟩ := not_or.mp absent
    have same : before.cells[cell.key]? = target.cells[cell.key]? := by
      rw [ExtTreeMap.getElem?_eq_none notBefore, ExtTreeMap.getElem?_eq_none notTarget]
    cases changed.symm.trans (changedCell_eq_none.mpr same)

private theorem changedCells_eq_nil : changedCells before target = [] ↔ before = target := by
  constructor
  · intro none
    have same : before.cells = target.cells := by
      apply ExtTreeMap.ext_getElem?
      intro key
      rw [← changedCell_eq_none]
      cases changed : changedCell before target key with
      | none => rfl
      | some cell =>
        have member := mem_changedCells.mpr ((changedCell_key before target changed).symm ▸ changed)
        rw [none] at member
        cases member
    cases before; cases target
    exact congrArg _ same
  · rintro rfl
    refine List.eq_nil_iff_forall_not_mem.mpr fun cell member => ?_
    cases (mem_changedCells.mp member).symm.trans (changedCell_eq_none.mpr rfl)

/-- Applying a changed cell makes its place the target's, glyph and priority. -/
theorem applyCell_target {cell : LuaCell} (changed : changedCell before target cell.key = some cell)
    (state : LuaFrameState) (key : CellKey) : (applyCell cell state).cells[key]? =
      if cell.key = key then target.cells[key]? else state.cells[key]? := by
  simp only [changedCell] at changed
  split at changed
  · cases changed
  · have made := Option.some.inj changed
    unfold applyCell
    cases there : target.cells[cell.key]? with
    | some aim =>
      have glyph : cell.glyph = some aim.glyph := by
        rw [← congrArg LuaCell.glyph made, there]
        rfl
      have priority : cell.priority = aim.priority := by
        rw [← congrArg LuaCell.priority made, there]
        rfl
      rw [glyph]
      simp only [OrdMap.getElem?_insert, priority]
      split
      · rename_i same
        rw [← same, there]
      · rfl
    | none =>
      have glyph : cell.glyph = none := by
        rw [← congrArg LuaCell.glyph made, there]
        rfl
      rw [glyph]
      simp only [OrdMap.getElem?_erase]
      split
      · rename_i same
        rw [← same, there]
      · rfl

/-- The offered cells are emitted or deferred, and the places of the emitted ones are the
target's. Nothing over the budget is emitted, and nothing else is passed over at first. -/
structure Settles (before target : LuaFrameState) (maxBytes : UInt32) (offered : List LuaCell) (tick : Tick) : Prop where
  parts : (tick.cells ++ tick.deferred).Perm offered
  deferred : tick.deferred.Sublist offered
  committed : ∀ key, tick.committed.cells[key]? =
    if key ∈ tick.cells.map LuaCell.key then target.cells[key]? else before.cells[key]?
  within : ∀ cell ∈ tick.cells, cell.byteLen ≤ maxBytes
  stuck : tick.cells = [] → tick.bytes = 0 ∧ ∀ cell ∈ tick.deferred, maxBytes < cell.byteLen

private theorem le_of_saturatingAdd_le {first second bound : UInt32} (within : first.saturatingAdd second ≤ bound) :
    second ≤ bound := by
  rw [UInt32.le_iff_toNat_le, UInt32.toNat_saturatingAdd] at within
  rw [UInt32.le_iff_toNat_le]
  have small := second.toNat_lt
  have greatest : UInt32.greatest = 2 ^ 32 - 1 := rfl
  omega

private theorem lt_of_not_zero_saturatingAdd_le {word bound : UInt32} (beyond : ¬ (0 : UInt32).saturatingAdd word ≤ bound) :
    bound < word := by
  rw [UInt32.le_iff_toNat_le, UInt32.toNat_saturatingAdd, UInt32.toNat_zero] at beyond
  rw [UInt32.lt_iff_toNat_lt]
  omega

theorem Settles.cell {maxBytes : UInt32} {offered : List LuaCell} {tick : Tick}
    (settles : Settles before target maxBytes offered tick) {cell : LuaCell}
    (changed : changedCell before target cell.key = some cell) :
    Settles before target maxBytes (offered ++ [cell]) (tickCell maxBytes tick cell) := by
  unfold tickCell
  simp only []
  split
  · rename_i room
    refine ⟨?_, settles.deferred.trans (List.sublist_append_left _ _), fun key => ?_, ?_, ?_⟩
    · refine List.Perm.trans ?_ (settles.parts.append_right [cell])
      simp only [List.append_assoc]
      exact List.Perm.append_left _ List.perm_append_comm
    · simp only [applyCell_target changed, settles.committed, List.map_append, List.mem_append, List.map_cons, List.map_nil,
        List.mem_singleton]
      by_cases same : cell.key = key
      · simp [same]
      · simp [same, Ne.symm same]
    · exact List.forall_mem_append.mpr ⟨settles.within, List.forall_mem_singleton.mpr (le_of_saturatingAdd_le room)⟩
    · intro none
      cases List.append_eq_nil_iff.mp none |>.2
  · rename_i full
    refine ⟨?_, settles.deferred.append (List.Sublist.refl _), settles.committed, settles.within, fun none => ?_⟩
    · rw [← List.append_assoc]
      exact settles.parts.append_right [cell]
    · obtain ⟨idle, large⟩ := settles.stuck none
      rw [idle] at full
      exact ⟨idle, List.forall_mem_append.mpr ⟨large, List.forall_mem_singleton.mpr (lt_of_not_zero_saturatingAdd_le full)⟩⟩

theorem Settles.run {maxBytes : UInt32} {offered : List LuaCell} {tick : Tick}
    (settles : Settles before target maxBytes offered tick) (cells : List LuaCell) (changed : ∀ cell ∈ cells, changedCell before target cell.key = some cell) :
    Settles before target maxBytes (offered ++ cells) (cells.foldl (tickCell maxBytes) tick) := by
  induction cells generalizing offered tick with
  | nil => rwa [List.append_nil]
  | cons cell rest ih =>
    obtain ⟨here, later⟩ := List.forall_mem_cons.mp changed
    have stepped : Settles before target maxBytes (offered ++ [cell]) (tickCell maxBytes tick cell) := settles.cell here
    rw [List.append_cons, List.foldl_cons]
    exact ih stepped later

section Settled
variable {maxBytes : UInt32} {tick : Tick}
  (settles : Settles before target maxBytes ((changedCells before target).mergeSort LuaCell.schedulesBefore) tick)
include settles

theorem Settles.perm : (tick.cells ++ tick.deferred).Perm (changedCells before target) :=
  settles.parts.trans (List.mergeSort_perm _ _)

theorem Settles.nodup : ((tick.cells ++ tick.deferred).map LuaCell.key).Nodup :=
  (settles.perm.map LuaCell.key).nodup_iff.mpr (changedCells_nodup before target)

/-- A place is still changed if it was and none of the emitted cells is there. -/
theorem Settles.mem_changedCells {cell : LuaCell} :
    cell ∈ changedCells tick.committed target ↔ cell ∈ tick.deferred := by
  rw [FrameConvergence.mem_changedCells]
  by_cases emitted : cell.key ∈ tick.cells.map LuaCell.key
  · have settled : tick.committed.cells[cell.key]? = target.cells[cell.key]? := by
      rw [settles.committed, if_pos emitted]
    rw [changedCell_eq_none.mpr settled]
    refine iff_of_false nofun fun member => ?_
    have apart := settles.nodup
    rw [List.map_append, List.nodup_append] at apart
    exact apart.2.2 _ emitted _ (List.mem_map_of_mem member) rfl
  · have kept : tick.committed.cells[cell.key]? = before.cells[cell.key]? := by
      rw [settles.committed, if_neg emitted]
    rw [changedCell_congr kept, ← FrameConvergence.mem_changedCells, ← settles.perm.mem_iff, List.mem_append]
    exact or_iff_right fun member => emitted (List.mem_map_of_mem member)

/-- The changed cells of the next call are the cells deferred by this one, in the same order. -/
theorem Settles.next : (changedCells tick.committed target).mergeSort LuaCell.schedulesBefore = tick.deferred := by
  have sorted := List.pairwise_mergeSort schedulesBefore_trans schedulesBefore_total (changedCells before target)
  have again := List.pairwise_mergeSort schedulesBefore_trans schedulesBefore_total (changedCells tick.committed target)
  have keys : (tick.deferred.map LuaCell.key).Nodup := by
    have all := settles.nodup
    rw [List.map_append] at all
    exact all.of_append_right
  have perm : (changedCells tick.committed target).Perm tick.deferred :=
    (List.perm_ext_iff_of_nodup (changedCells_nodup _ _).of_map keys.of_map).mpr fun _ => settles.mem_changedCells
  refine List.Perm.eq_of_pairwise ?_ again (sorted.sublist settles.deferred) ((List.mergeSort_perm _ _).trans perm)
  intro first second firstIn secondIn forth back
  have firstDeferred : first ∈ tick.deferred := settles.mem_changedCells.mp (List.mem_mergeSort.mp firstIn)
  exact List.inj_on_of_nodup_map keys firstDeferred secondIn (schedulesBefore_key forth back)

theorem Settles.untouched (none : tick.cells = []) : tick.committed = before := by
  have same : tick.committed.cells = before.cells := by
    apply ExtTreeMap.ext_getElem?
    intro key
    rw [settles.committed, none]
    rfl
  exact congrArg LuaFrameState.mk same

end Settled

end Changed

section Calls
variable {fromScene : Expr → Result GlanceCard} {next : Expr} {budget : LuaFrameBudget} {target : LuaFrameState}
  {scheduler : LuaFrameScheduler}

/-- All a call can do with an accepted frame: refuse cells that are all over the budget, or emit some of them. -/
inductive Scheduled (budget : LuaFrameBudget) (target before : LuaFrameState) :
    Result FrameDiff × LuaFrameScheduler → Prop where
  | refused (error : Error) (changed : changedCells before target ≠ [])
      (large : ∀ cell ∈ changedCells before target, budget.maxBytesPerTick < cell.byteLen) :
      Scheduled budget target before (.error error, ⟨before⟩)
  | emitted (diff : FrameDiff) (after : LuaFrameState)
      (parts : (diff.cells ++ diff.deferred).Perm (changedCells before target))
      (follows : (changedCells after target).mergeSort LuaCell.schedulesBefore = diff.deferred)
      (within : ∀ cell ∈ diff.cells, cell.byteLen ≤ budget.maxBytesPerTick)
      (progress : diff.cells = [] → changedCells before target = []) :
      Scheduled budget target before (.ok diff, ⟨after⟩)

theorem schedule_scheduled (positive : budget.maxBytesPerTick ≠ 0)
    (accepted : LuaFrameState.fromGlance fromScene next = .ok target) :
    Scheduled budget target scheduler.committed (scheduler.schedule fromScene next budget) := by
  rw [LuaFrameScheduler.schedule, if_neg positive, accepted]
  simp only []
  have start : Settles scheduler.committed target budget.maxBytesPerTick [] ⟨scheduler.committed, [], [], 0⟩ :=
    ⟨.refl _, .refl _, fun _ => rfl, List.forall_mem_nil _, fun _ => ⟨rfl, List.forall_mem_nil _⟩⟩
  have settles := start.run ((changedCells scheduler.committed target).mergeSort LuaCell.schedulesBefore)
    fun cell member => mem_changedCells.mp (List.mem_mergeSort.mp member)
  rw [List.nil_append] at settles
  generalize List.foldl (tickCell budget.maxBytesPerTick) ⟨scheduler.committed, [], [], 0⟩
    ((changedCells scheduler.committed target).mergeSort LuaCell.schedulesBefore) = tick at settles ⊢
  have parts := settles.perm
  split
  · rename_i stuck
    rw [Bool.and_eq_true, List.isEmpty_iff, Bool.not_eq_true', List.isEmpty_eq_false_iff] at stuck
    obtain ⟨none, deferred⟩ := stuck
    obtain ⟨_, large⟩ := settles.stuck none
    rw [none, List.nil_append] at parts
    rw [settles.untouched none]
    refine .refused _ ?_ fun cell member => large cell (parts.mem_iff.mpr member)
    rintro empty
    rw [empty] at parts
    exact deferred parts.eq_nil
  · rename_i moving
    refine .emitted _ _ parts settles.next settles.within fun (none : tick.cells = []) => ?_
    have complete : tick.deferred = [] := by simpa [none] using moving
    rw [none, complete] at parts
    exact parts.symm.eq_nil

variable (fromScene next budget) in
def afterCalls : Nat → LuaFrameScheduler → LuaFrameScheduler
  | 0, scheduler => scheduler
  | count + 1, scheduler => afterCalls count (scheduler.schedule fromScene next budget).2

variable (fromScene next budget) in
/-- What the call after `count` calls returns. -/
def call (count : Nat) (scheduler : LuaFrameScheduler) : Result FrameDiff :=
  ((afterCalls fromScene next budget count scheduler).schedule fromScene next budget).1

/-- The call after `last` calls is the first to return a complete diff, and commits
the target; every call before it emits a cell, and every call changes what the one
before it has deferred. -/
structure Converges (fromScene : Expr → Result GlanceCard) (next : Expr) (budget : LuaFrameBudget) (target : LuaFrameState)
    (scheduler : LuaFrameScheduler) (last : Nat) : Prop where
  progress : ∀ count < last, ∃ diff, call fromScene next budget count scheduler = .ok diff ∧ ¬ diff.isComplete ∧
    diff.cells ≠ []
  complete : ∃ diff, call fromScene next budget last scheduler = .ok diff ∧ diff.isComplete
  follows : ∀ count ≤ last, ∀ diff, call fromScene next budget count scheduler = .ok diff →
    (changedCells (afterCalls fromScene next budget (count + 1) scheduler).committed target).mergeSort
      LuaCell.schedulesBefore = diff.deferred
  settled : (afterCalls fromScene next budget (last + 1) scheduler).committed = target

/-- A complete diff leaves nothing changed. -/
theorem Converges.now {diff : FrameDiff} {after : LuaFrameState}
    (scheduled : scheduler.schedule fromScene next budget = (.ok diff, ⟨after⟩))
    (follows : (changedCells after target).mergeSort LuaCell.schedulesBefore = diff.deferred)
    (complete : diff.deferred = []) : Converges fromScene next budget target scheduler 0 := by
  have returned : call fromScene next budget 0 scheduler = .ok diff := congrArg Prod.fst scheduled
  have reached : (afterCalls fromScene next budget 1 scheduler).committed = after :=
    congrArg (fun result => result.2.committed) scheduled
  refine ⟨nofun, ⟨diff, returned, List.isEmpty_iff.mpr complete⟩, ?_, ?_⟩
  · intro count first other answered
    obtain rfl := Nat.le_zero.mp first
    cases returned.symm.trans answered
    rwa [reached]
  · rw [reached, ← changedCells_eq_nil]
    have perm := List.mergeSort_perm (changedCells after target) LuaCell.schedulesBefore
    rw [follows, complete] at perm
    exact perm.symm.eq_nil

/-- A call that defers cells is followed by the calls that converge from there. -/
theorem Converges.later {diff : FrameDiff} {after : LuaFrameState} {last : Nat}
    (scheduled : scheduler.schedule fromScene next budget = (.ok diff, ⟨after⟩))
    (follows : (changedCells after target).mergeSort LuaCell.schedulesBefore = diff.deferred)
    (deferred : diff.deferred ≠ []) (emits : diff.cells ≠ [])
    (converges : Converges fromScene next budget target ⟨after⟩ last) :
    Converges fromScene next budget target scheduler (last + 1) := by
  have states (count : Nat) : afterCalls fromScene next budget (count + 1) scheduler =
      afterCalls fromScene next budget count ⟨after⟩ := by rw [afterCalls, scheduled]
  have returns (count : Nat) : call fromScene next budget (count + 1) scheduler =
      call fromScene next budget count ⟨after⟩ := by rw [call, states, call]
  have first : call fromScene next budget 0 scheduler = .ok diff := congrArg Prod.fst scheduled
  refine ⟨?_, ?_, ?_, ?_⟩
  · intro count earlier
    cases count with
    | zero => exact ⟨diff, first, by rwa [FrameDiff.isComplete, List.isEmpty_iff], emits⟩
    | succ count =>
      rw [returns]
      exact converges.progress count (Nat.lt_of_succ_lt_succ earlier)
  · rw [returns]
    exact converges.complete
  · intro count earlier other answered
    cases count with
    | zero =>
      cases first.symm.trans answered
      rwa [states]
    | succ count =>
      rw [states]
      exact converges.follows count (Nat.le_of_succ_le_succ earlier) other ((returns count).symm.trans answered)
  · rw [states]
    exact converges.settled

private theorem converges (positive : budget.maxBytesPerTick ≠ 0)
    (accepted : LuaFrameState.fromGlance fromScene next = .ok target)
    (fits : ∀ cell ∈ changedCells scheduler.committed target, cell.byteLen ≤ budget.maxBytesPerTick) :
    ∃ last < max 1 (changedCells scheduler.committed target).length,
      Converges fromScene next budget target scheduler last := by
  induction size : (changedCells scheduler.committed target).length using Nat.strong_induction_on generalizing scheduler with
  | _ number ih =>
    have scheduled : Scheduled budget target scheduler.committed (scheduler.schedule fromScene next budget) :=
      schedule_scheduled positive accepted
    generalize answered : scheduler.schedule fromScene next budget = result at scheduled
    cases scheduled with
    | refused error changed large =>
      obtain ⟨cell, member⟩ := List.exists_mem_of_ne_nil _ changed
      exact absurd (fits cell member) (UInt32.not_le.mpr (large cell member))
    | emitted diff after parts follows within progress =>
      by_cases complete : diff.deferred = []
      · exact ⟨0, by omega, .now answered follows complete⟩
      · have emits : diff.cells ≠ [] := by
          intro none
          rw [progress none] at parts
          exact complete (List.append_eq_nil_iff.mp parts.eq_nil).2
        have later : (changedCells after target).Perm diff.deferred :=
          (List.mergeSort_perm _ LuaCell.schedulesBefore).symm.trans (.of_eq follows)
        have lengths := parts.length_eq
        have some := List.length_pos_iff.mpr emits
        rw [List.length_append, ← later.length_eq, size] at lengths
        have fitsLater : ∀ cell ∈ changedCells after target, cell.byteLen ≤ budget.maxBytesPerTick := fun cell member =>
          fits cell (parts.subset (List.mem_append_right _ (later.subset member)))
        have smaller : (changedCells after target).length < number := by omega
        have rest : ∃ last < max 1 (changedCells after target).length,
            Converges fromScene next budget target ⟨after⟩ last := ih _ smaller fitsLater rfl
        obtain ⟨last, bound, converges⟩ := rest
        have left := List.length_pos_iff.mpr complete
        rw [← later.length_eq] at left
        exact ⟨last + 1, by omega, .later answered follows complete emits converges⟩

def Oversized (budget : LuaFrameBudget) (target state : LuaFrameState) : Prop :=
  ∃ cell ∈ changedCells state target, budget.maxBytesPerTick < cell.byteLen

/-- A cell over the budget is never emitted, so it stays changed. -/
theorem Scheduled.oversized {before : LuaFrameState} {result : Result FrameDiff × LuaFrameScheduler}
    (scheduled : Scheduled budget target before result) (oversized : Oversized budget target before) :
    Oversized budget target result.2.committed := by
  cases scheduled with
  | refused => exact oversized
  | emitted diff after parts follows within progress =>
    obtain ⟨cell, member, large⟩ := oversized
    refine ⟨cell, ?_, large⟩
    rcases List.mem_append.mp (parts.symm.subset member) with emitted | deferred
    · exact absurd (within cell emitted) (UInt32.not_le.mpr large)
    · rw [← follows] at deferred
      exact List.mem_mergeSort.mp deferred

private theorem never_idle (positive : budget.maxBytesPerTick ≠ 0)
    (accepted : LuaFrameState.fromGlance fromScene next = .ok target)
    (oversized : Oversized budget target scheduler.committed) (count : Nat) :
    (∃ diff, call fromScene next budget count scheduler = .ok diff ∧ diff.cells ≠ []) ∨
      ∃ error, call fromScene next budget count scheduler = .error error ∧
        (afterCalls fromScene next budget (count + 1) scheduler).committed =
          (afterCalls fromScene next budget count scheduler).committed := by
  have scheduled : Scheduled budget target scheduler.committed (scheduler.schedule fromScene next budget) :=
    schedule_scheduled positive accepted
  induction count generalizing scheduler with
  | zero =>
    obtain ⟨cell, member, _⟩ := oversized
    simp only [call, afterCalls]
    generalize scheduler.schedule fromScene next budget = result at scheduled
    cases scheduled with
    | refused error => exact .inr ⟨error, rfl, rfl⟩
    | emitted diff after parts follows within progress =>
      refine .inl ⟨diff, rfl, fun none => ?_⟩
      rw [progress none] at member
      cases member
  | succ count ih =>
    exact ih (scheduled.oversized oversized) (schedule_scheduled positive accepted)

variable (scheduler) in
/-- With a nonzero budget that fits every changed cell the calls converge, and with a smaller one no call is idle. -/
theorem deferred_cells_converge (positive : budget.maxBytesPerTick ≠ 0)
    (accepted : LuaFrameState.fromGlance fromScene next = .ok target) :
    ((∀ cell ∈ changedCells scheduler.committed target, cell.byteLen ≤ budget.maxBytesPerTick) →
      ∃ last < max 1 (changedCells scheduler.committed target).length,
        Converges fromScene next budget target scheduler last) ∧
    (Oversized budget target scheduler.committed → ∀ count,
      (∃ diff, call fromScene next budget count scheduler = .ok diff ∧ diff.cells ≠ []) ∨
        ∃ error, call fromScene next budget count scheduler = .error error ∧
          (afterCalls fromScene next budget (count + 1) scheduler).committed =
            (afterCalls fromScene next budget count scheduler).committed) :=
  ⟨converges positive accepted, never_idle positive accepted⟩

end Calls

theorem one_scene_accepted : ∃ target, LuaFrameState.fromGlance oneScene.fromScene (.string "scene") = .ok target ∧
    target.cells[(⟨.title, 0⟩ : CellKey)]? = some ⟨'H', .normal⟩ := ⟨_, rfl, rfl⟩

/-- A frame that is on the display already, and a budget of zero: the call fails, however often it is repeated. -/
theorem zero_budget_never_complete :
    ¬ ∀ (fromScene : Expr → Result GlanceCard) (next : Expr) (budget : LuaFrameBudget) (target : LuaFrameState)
      (scheduler : LuaFrameScheduler), LuaFrameState.fromGlance fromScene next = .ok target →
      (∀ cell ∈ changedCells scheduler.committed target, cell.byteLen ≤ budget.maxBytesPerTick) →
      ∃ last < max 1 (changedCells scheduler.committed target).length,
        Converges fromScene next budget target scheduler last := by
  intro always
  obtain ⟨target, accepted, _⟩ := one_scene_accepted
  have unchanged : changedCells target target = [] := changedCells_eq_nil.mpr rfl
  obtain ⟨last, _, converges⟩ := always oneScene.fromScene (.string "scene") ⟨0⟩ target ⟨target⟩ accepted
    (by rw [unchanged]; exact nofun)
  obtain ⟨diff, returned, _⟩ := converges.complete
  rw [call, LuaFrameScheduler.schedule, if_pos rfl] at returned
  cases returned

theorem one_scene_converges : ∃ target,
    (∃ last < max 1 (changedCells .empty target).length,
      Converges oneScene.fromScene (.string "scene") ⟨64⟩ target .empty last) ∧
    ((∃ diff, call oneScene.fromScene (.string "scene") ⟨1⟩ 0 .empty = .ok diff ∧ diff.cells ≠ []) ∨
      ∃ error, call oneScene.fromScene (.string "scene") ⟨1⟩ 0 .empty = .error error ∧
        (afterCalls oneScene.fromScene (.string "scene") ⟨1⟩ (0 + 1) .empty).committed =
          (afterCalls oneScene.fromScene (.string "scene") ⟨1⟩ 0 .empty).committed) := by
  obtain ⟨target, accepted, title⟩ := one_scene_accepted
  have fits : ∀ cell ∈ changedCells .empty target, cell.byteLen ≤ 64 := by
    intro cell _
    have small := cell.primitive_size
    rw [UInt32.le_iff_toNat_le, cell.toNat_byteLen]
    exact Nat.le_trans small (by decide)
  have changed : changedCells .empty target ≠ [] := by
    rintro none
    rw [← changedCells_eq_nil.mp none] at title
    cases title
  obtain ⟨cell, member⟩ := List.exists_mem_of_ne_nil _ changed
  have large : 1 < cell.byteLen := by
    have parts := cell.primitive_parts
    rw [UInt32.lt_iff_toNat_lt, cell.toNat_byteLen, parts, UInt32.toNat_one]
    omega
  exact ⟨target, (deferred_cells_converge .empty (by decide) accepted).1 fits,
    (deferred_cells_converge .empty (by decide) accepted).2 ⟨cell, member, large⟩ 0⟩

end StreamHost.Proofs.FrameConvergence
