import StreamHost.Lib.FirstFit
import StreamHost.Proofs.FrameConvergence

/-! Cells of a higher priority are never displaced. One tick is first fit over the
changed cells in scheduling order, counted without overflow. -/

namespace StreamHost.Proofs.PriorityOrder
open Std Halo LuaFrameScheduler FrameConvergence

abbrev cellSize (cell : LuaCell) : Nat := cell.toLuaPrimitive.size

private theorem load_cellSize (cells : List LuaCell) : FirstFit.load cellSize cells = frameBytes cells := rfl

private theorem frameBytes_le_of_sublist {cells more : List LuaCell} (sublist : cells.Sublist more) :
    frameBytes cells ≤ frameBytes more := FirstFit.load_le_of_sublist sublist

def Precedes (first second : LuaCell) : Prop := cellOrder first second = .lt

instance : DecidableRel Precedes := fun first second => inferInstanceAs (Decidable (cellOrder first second = .lt))

/-- The cells of priority `least` or higher. -/
def atLeast (least : LuaCellPriority) (cell : LuaCell) : Bool := (compare cell.priority least).isLE

def inOrder (cells : List LuaCell) : List LuaCell := cells.mergeSort LuaCell.schedulesBefore

section Order

private theorem Precedes.atLeast {least : LuaCellPriority} {first second : LuaCell} (before : Precedes first second)
    (high : atLeast least second = true) : atLeast least first = true := by
  have first_le : (compare first.priority second.priority).isLE = true := by
    rcases Ordering.then_eq_lt.mp before with lower | ⟨same, _⟩
    · exact Ordering.isLE_of_eq_lt lower
    · exact Ordering.isLE_of_eq_eq same
  exact TransCmp.isLE_trans first_le high

/-- Changed cells have distinct places, so their order is strict. -/
theorem inOrder_pairwise {cells : List LuaCell} (once : (cells.map LuaCell.key).Nodup) : (inOrder cells).Pairwise Precedes := by
  have sorted := List.pairwise_mergeSort schedulesBefore_trans schedulesBefore_total cells
  have places : ((inOrder cells).map LuaCell.key).Nodup :=
    (((List.mergeSort_perm cells _).map LuaCell.key).nodup_iff).mpr once
  have apart := List.pairwise_map.mp places
  refine (sorted.and apart).imp fun {first second} ⟨before, other⟩ => ?_
  have ordered : (cellOrder first second).isLE = true := before
  unfold Precedes
  cases order : cellOrder first second with
  | lt => rfl
  | eq => exact absurd (schedulesBefore_key before (Ordering.isLE_of_eq_eq (OrientedCmp.eq_comm.mp order))) other
  | gt => rw [order] at ordered; cases ordered

private theorem inOrder_filter {cells : List LuaCell} (once : (cells.map LuaCell.key).Nodup) (high : LuaCell → Bool) :
    inOrder (cells.filter high) = (inOrder cells).filter high := by
  have ordered := (inOrder_pairwise once).filter high
  have kept : ((cells.filter high).map LuaCell.key).Nodup := once.sublist (List.filter_sublist.map LuaCell.key)
  have again := inOrder_pairwise kept
  have perm : (inOrder (cells.filter high)).Perm ((inOrder cells).filter high) :=
    (List.mergeSort_perm _ _).trans ((List.mergeSort_perm cells _).filter high).symm
  refine List.Perm.eq_of_pairwise (fun first second _ _ forth back => ?_) again ordered perm
  cases forth.symm.trans (OrientedCmp.gt_of_lt back)

end Order

section Tick
variable {maxBytes : UInt32} {tick : Tick}

/-- As far as no sum leaves the words, the loop takes and skips cells by first fit. -/
theorem run_firstFit (counted : tick.bytes.toNat = frameBytes tick.cells) (cells : List LuaCell)
    (fits : frameBytes tick.cells + frameBytes cells < 2 ^ 32) :
    (cells.foldl (tickCell maxBytes) tick).cells =
      tick.cells ++ FirstFit.taken cellSize maxBytes.toNat (frameBytes tick.cells) cells ∧
    (cells.foldl (tickCell maxBytes) tick).deferred =
      tick.deferred ++ FirstFit.skipped cellSize maxBytes.toNat (frameBytes tick.cells) cells ∧
    (cells.foldl (tickCell maxBytes) tick).bytes.toNat = frameBytes (cells.foldl (tickCell maxBytes) tick).cells := by
  induction cells generalizing tick with
  | nil => exact ⟨(List.append_nil _).symm, (List.append_nil _).symm, counted⟩
  | cons cell rest ih =>
    rw [frameBytes_cons, ← Nat.add_assoc] at fits
    have size := cell.toNat_byteLen
    have bound : UInt32.greatest = 2 ^ 32 - 1 := rfl
    have guard : tick.bytes.saturatingAdd cell.byteLen ≤ maxBytes ↔ frameBytes tick.cells + cellSize cell ≤ maxBytes.toNat := by
      rw [UInt32.le_iff_toNat_le, UInt32.toNat_saturatingAdd, counted, size, cellSize]
      omega
    rw [List.foldl_cons, FirstFit.taken, FirstFit.skipped, tickCell]
    by_cases room : frameBytes tick.cells + cellSize cell ≤ maxBytes.toNat
    · simp only [guard, if_pos room]
      have exact : (tick.bytes + cell.byteLen).toNat = frameBytes (tick.cells ++ [cell]) := by
        rw [UInt32.toNat_add_of_le (by omega), counted, size, frameBytes_snoc]
      rw [← frameBytes_snoc] at fits
      obtain ⟨taken, skipped, bytes⟩ := @ih ⟨applyCell cell tick.committed, tick.cells ++ [cell], tick.deferred,
        tick.bytes + cell.byteLen⟩ exact fits
      rw [frameBytes_snoc, List.append_assoc] at taken
      rw [frameBytes_snoc] at skipped
      exact ⟨taken, skipped, bytes⟩
    · simp only [guard, if_neg room]
      have fits : frameBytes tick.cells + frameBytes rest < 2 ^ 32 := by omega
      obtain ⟨taken, skipped, bytes⟩ := @ih { tick with deferred := tick.deferred ++ [cell] } counted fits
      rw [List.append_assoc] at skipped
      exact ⟨taken, skipped, bytes⟩

private theorem run_from_start {before : LuaFrameState} {cells : List LuaCell} (fits : frameBytes cells < 2 ^ 32) :
    (cells.foldl (tickCell maxBytes) ⟨before, [], [], 0⟩).cells = FirstFit.taken cellSize maxBytes.toNat 0 cells ∧
    (cells.foldl (tickCell maxBytes) ⟨before, [], [], 0⟩).deferred = FirstFit.skipped cellSize maxBytes.toNat 0 cells ∧
    (cells.foldl (tickCell maxBytes) ⟨before, [], [], 0⟩).bytes.toNat =
      frameBytes (cells.foldl (tickCell maxBytes) ⟨before, [], [], 0⟩).cells :=
  run_firstFit rfl cells ((Nat.zero_add _).trans_lt fits)

end Tick

/-- The tick over these cells, offered in scheduling order. -/
def tickOver (budget : LuaFrameBudget) (before : LuaFrameState) (cells : List LuaCell) : Tick :=
  (inOrder cells).foldl (tickCell budget.maxBytesPerTick) ⟨before, [], [], 0⟩

/-- The cells of a diff are the changed cells in strict order, each emitted unless it
did not fit beside those emitted before it, whatever comes after. -/
structure Prioritized (budget : LuaFrameBudget) (before target : LuaFrameState) (diff : FrameDiff) : Prop where
  parts : (diff.cells ++ diff.deferred).Perm (changedCells before target)
  once : ((diff.cells ++ diff.deferred).map LuaCell.key).Nodup
  emittedOrder : diff.cells.Pairwise Precedes
  deferredOrder : diff.deferred.Pairwise Precedes
  counted : diff.bytes.toNat = (diff.cells.map fun cell => cell.byteLen.toNat).sum
  within : diff.bytes ≤ budget.maxBytesPerTick
  additions : ∀ first cell rest, inOrder (changedCells before target) = first ++ cell :: rest →
    (first.foldl (tickCell budget.maxBytesPerTick) ⟨before, [], [], 0⟩).bytes.toNat + cell.byteLen.toNat < 2 ^ 32
  full : ∀ cell ∈ diff.deferred, budget.maxBytesPerTick.toNat <
    ((diff.cells.filter (Precedes · cell)).map fun cell => cell.byteLen.toNat).sum + cell.byteLen.toNat
  undisplaced : ∀ least, diff.cells.filter (atLeast least) =
    (tickOver budget before ((changedCells before target).filter (atLeast least))).cells

private theorem sum_byteLen (cells : List LuaCell) : (cells.map fun cell => cell.byteLen.toNat).sum = frameBytes cells := by
  simp only [LuaCell.toNat_byteLen, frameBytes]

section Schedule
variable {fromScene : Expr → Result GlanceCard} {next : Expr} {budget : LuaFrameBudget}
  {before target : LuaFrameState} {scheduler : LuaFrameScheduler} {diff : FrameDiff}

private theorem frameBytes_inOrder (cells : List LuaCell) : frameBytes (inOrder cells) = frameBytes cells :=
  ((List.mergeSort_perm _ _).map _).sum_nat

private theorem tickOver_prioritized (emitted : diff.cells = (tickOver budget before (changedCells before target)).cells)
    (deferred : diff.deferred = (tickOver budget before (changedCells before target)).deferred)
    (bytes : diff.bytes = (tickOver budget before (changedCells before target)).bytes) :
    Prioritized budget before target diff := by
  have once := changedCells_nodup before target
  have sorted := inOrder_pairwise once
  have total : frameBytes (inOrder (changedCells before target)) < 2 ^ 32 :=
    (frameBytes_inOrder _).trans_lt (changedCells_bytes before target)
  obtain ⟨taken, skipped, counted⟩ := @run_from_start budget.maxBytesPerTick before _ total
  unfold tickOver at emitted deferred bytes
  rw [← emitted] at taken counted
  rw [← deferred] at skipped
  rw [← bytes] at counted
  have parts : (diff.cells ++ diff.deferred).Perm (changedCells before target) := by
    rw [taken, skipped]
    exact (FirstFit.taken_append_skipped_perm 0 _).trans (List.mergeSort_perm _ _)
  constructor
  case parts => exact parts
  case once => exact ((parts.map LuaCell.key).nodup_iff).mpr once
  case emittedOrder => exact taken ▸ sorted.sublist (FirstFit.taken_sublist 0 _)
  case deferredOrder => exact skipped ▸ sorted.sublist (FirstFit.skipped_sublist 0 _)
  case counted => rw [counted, sum_byteLen]
  case within =>
    have load := @FirstFit.load_taken_le _ cellSize _ 0 (Nat.zero_le budget.maxBytesPerTick.toNat)
      (inOrder (changedCells before target))
    rwa [Nat.zero_add, ← taken, load_cellSize, ← counted] at load
  case additions =>
    intro first cell rest split
    rw [split, frameBytes_append, frameBytes_cons] at total
    obtain ⟨emittedFirst, _, countedFirst⟩ :=
      @run_from_start budget.maxBytesPerTick before first ((Nat.le_add_right _ _).trans_lt total)
    have few := frameBytes_le_of_sublist (emittedFirst ▸ FirstFit.taken_sublist 0 first)
    rw [countedFirst, cell.toNat_byteLen]
    omega
  case full =>
    intro cell member
    rw [skipped] at member
    have full := FirstFit.lt_of_mem_skipped sorted 0 cell member
    rwa [Nat.zero_add, ← taken, load_cellSize, ← sum_byteLen, cellSize, ← cell.toNat_byteLen] at full
  case undisplaced =>
    intro least
    have fewer : frameBytes (inOrder ((changedCells before target).filter (atLeast least))) < 2 ^ 32 := by
      rw [frameBytes_inOrder]
      exact (frameBytes_le_of_sublist List.filter_sublist).trans_lt (changedCells_bytes before target)
    rw [tickOver, (run_from_start fewer).1, inOrder_filter once, taken]
    exact FirstFit.filter_taken sorted (fun first second before high => before.atLeast high) 0

private theorem schedule_tick (accepted : LuaFrameState.fromGlance fromScene next = .ok target)
    (scheduled : (scheduler.schedule fromScene next budget).1 = .ok diff) :
    let tick := tickOver budget scheduler.committed (changedCells scheduler.committed target)
    diff = ⟨tick.cells, tick.bytes, tick.deferred⟩ := by
  unfold LuaFrameScheduler.schedule at scheduled
  split at scheduled
  · cases scheduled
  · rw [accepted] at scheduled
    simp only [] at scheduled
    split at scheduled
    · cases scheduled
    · exact (Except.ok.inj scheduled).symm

/-- Whatever a call returns gives every priority what the lower ones cannot take from it. -/
theorem schedule_prioritized (accepted : LuaFrameState.fromGlance fromScene next = .ok target)
    (scheduled : (scheduler.schedule fromScene next budget).1 = .ok diff) :
    Prioritized budget scheduler.committed target diff := by
  have made := schedule_tick accepted scheduled
  exact tickOver_prioritized (congrArg FrameDiff.cells made) (congrArg FrameDiff.deferred made) (congrArg FrameDiff.bytes made)

end Schedule

theorem one_scene_prioritized : ∃ target diff,
    (LuaFrameScheduler.empty.schedule oneScene.fromScene (.string "scene") ⟨64⟩).1 = .ok diff ∧
      Prioritized ⟨64⟩ .empty target diff := by
  obtain ⟨target, accepted, _⟩ := one_scene_accepted
  obtain ⟨diff, scheduled⟩ : ∃ diff,
      (LuaFrameScheduler.empty.schedule oneScene.fromScene (.string "scene") ⟨64⟩).1 = .ok diff :=
    schedule_progresses accepted (by decide)
  exact ⟨target, diff, scheduled, schedule_prioritized accepted scheduled⟩

end StreamHost.Proofs.PriorityOrder
