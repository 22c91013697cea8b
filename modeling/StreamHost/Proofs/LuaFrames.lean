import StreamHost.Halo.FrameBudget
import StreamHost.Lib.Decimal

/-! Byte lengths of Lua frames, and what one tick of the scheduler does: the
emitted cells are exactly what it commits, and their bytes are counted exactly. -/

namespace StreamHost.Halo
open Std

private theorem LuaRegion.token_size (region : LuaRegion) : region.token.utf8ByteSize ≤ 12 := by
  cases region <;> decide

namespace LuaCell

private theorem glyphText_size (cell : LuaCell) : cell.glyphText.utf8ByteSize ≤ 7 := by
  unfold glyphText
  split
  · rename_i glyph _
    have scalar : glyph.toNat < 10 ^ 7 := by
      have valid := glyph.valid
      rcases valid with low | ⟨_, high⟩
      · exact Nat.lt_trans low (by decide)
      · exact Nat.lt_trans high (by decide)
    exact Decimal.utf8ByteSize_toString_le (by decide) scalar
  · decide

private theorem joined_size (first second third fourth fifth sixth seventh : String) :
    (first ++ second ++ third ++ fourth ++ fifth ++ sixth ++ seventh).utf8ByteSize =
      first.utf8ByteSize + second.utf8ByteSize + third.utf8ByteSize + fourth.utf8ByteSize + fifth.utf8ByteSize +
        sixth.utf8ByteSize + seventh.utf8ByteSize := by
  simp only [String.utf8ByteSize_append]

/-- The fixed parts of a primitive take 19 bytes. -/
theorem primitive_parts (cell : LuaCell) : cell.toLuaPrimitive.size =
    14 + cell.region.token.utf8ByteSize + 2 + (toString cell.index.toNat).utf8ByteSize + 1 +
      cell.glyphText.utf8ByteSize + 2 := by
  have opening : "sim.set_cell(\"".utf8ByteSize = 14 := by decide
  have quote : "\",".utf8ByteSize = 2 := by decide
  have comma : ",".utf8ByteSize = 1 := by decide
  have closing : ")\n".utf8ByteSize = 2 := by decide
  have joined := joined_size "sim.set_cell(\"" cell.region.token "\"," (toString cell.index.toNat) "," cell.glyphText ")\n"
  rw [opening, quote, comma, closing] at joined
  exact String.size_toByteArray.trans joined

theorem primitive_size (cell : LuaCell) : cell.toLuaPrimitive.size ≤ 43 := by
  have below : cell.index.toNat < 10 ^ 5 := by
    have bound := cell.index.toNat_lt
    omega
  have index := Decimal.utf8ByteSize_toString_le (by decide) below
  have token := cell.region.token_size
  have glyph := cell.glyphText_size
  have parts := cell.primitive_parts
  generalize (toString cell.index.toNat).utf8ByteSize = indexBytes at *
  generalize cell.region.token.utf8ByteSize = tokenBytes at *
  generalize cell.glyphText.utf8ByteSize = glyphBytes at *
  generalize cell.toLuaPrimitive.size = size at *
  omega

theorem toNat_byteLen (cell : LuaCell) : cell.byteLen.toNat = cell.toLuaPrimitive.size := by
  have small := cell.primitive_size
  have fits : cell.toLuaPrimitive.size ≤ UInt32.greatest := Nat.le_trans small (by decide)
  rw [byteLen, UInt32.toNat_ofNat_of_le (Nat.min_le_right _ _), Nat.min_eq_left fits]

end LuaCell

/-- The bytes of a list of cells, added up without any bound. -/
def frameBytes (cells : List LuaCell) : Nat := (cells.map fun cell => cell.toLuaPrimitive.size).sum

theorem frameBytes_append (first last : List LuaCell) :
    frameBytes (first ++ last) = frameBytes first + frameBytes last := by
  rw [frameBytes, List.map_append, List.sum_append, frameBytes, frameBytes]

theorem frameBytes_cons (cell : LuaCell) (rest : List LuaCell) :
    frameBytes (cell :: rest) = cell.toLuaPrimitive.size + frameBytes rest := by
  rw [frameBytes, List.map_cons, List.sum_cons, frameBytes]

theorem frameBytes_snoc (cells : List LuaCell) (cell : LuaCell) :
    frameBytes (cells ++ [cell]) = frameBytes cells + cell.toLuaPrimitive.size := by
  have empty : frameBytes [] = 0 := rfl
  rw [frameBytes_append, frameBytes_cons, empty, Nat.add_zero]

theorem encode_size (cells : List LuaCell) : (encodeLuaCells cells).size = frameBytes cells := by
  have grows (bytes : ByteArray) :
      (cells.foldl (fun bytes cell => bytes ++ cell.toLuaPrimitive) bytes).size = bytes.size + frameBytes cells := by
    induction cells generalizing bytes with
    | nil => rfl
    | cons cell rest ih =>
      rw [List.foldl_cons, ih, ByteArray.size_append, Nat.add_assoc]
      rfl
  exact (grows .empty).trans (Nat.zero_add _)

private theorem frameBytes_le (cells : List LuaCell) : frameBytes cells ≤ cells.length * 43 := by
  induction cells with
  | nil => exact Nat.zero_le _
  | cons cell rest ih =>
    have first := cell.primitive_size
    rw [frameBytes_cons, List.length_cons, Nat.succ_mul]
    omega

section Changed
variable (previous target : LuaFrameState)

theorem changedCell_key {key : CellKey} {cell : LuaCell} (changed : changedCell previous target key = some cell) :
    cell.key = key := by
  simp only [changedCell] at changed
  split at changed
  · cases changed
  · cases changed; rfl

theorem changedCells_nodup : ((changedCells previous target).map LuaCell.key).Nodup := by
  have distinct : (ExtTreeSet.ofList (previous.cells.keys ++ target.cells.keys) compare).toList.Nodup := by
    apply ExtTreeSet.distinct_toList.imp
    intro first second apart same
    rw [same] at apart
    exact apart ReflCmp.compare_self
  rw [changedCells, List.map_filterMap]
  refine distinct.filterMap fun first second key firstMade secondMade => ?_
  obtain ⟨_, made, rfl⟩ := Option.map_eq_some_iff.mp firstMade
  obtain ⟨_, again, same⟩ := Option.map_eq_some_iff.mp secondMade
  rw [← changedCell_key previous target made, ← same, changedCell_key previous target again]

def CellKey.place (key : CellKey) : Nat := key.region.rank * 65536 + key.index.toNat

private theorem CellKey.place_lt (key : CellKey) : key.place < 6 * 65536 := by
  have index := key.index.toNat_lt
  have region : key.region.rank ≤ 5 := by cases key.region <;> decide
  rw [place]
  omega

private theorem CellKey.place_injective : Function.Injective CellKey.place := by
  rintro ⟨firstRegion, firstIndex⟩ ⟨secondRegion, secondIndex⟩ same
  have firstLt := firstIndex.toNat_lt
  have secondLt := secondIndex.toNat_lt
  simp only [place] at same
  have ranks : firstRegion.rank = secondRegion.rank := by omega
  have indices : firstIndex = secondIndex := UInt16.toNat_inj.mp (by omega)
  have regions : firstRegion = secondRegion := by
    cases firstRegion <;> cases secondRegion <;> first | rfl | cases ranks
  rw [regions, indices]

private theorem changedCells_length : (changedCells previous target).length ≤ 6 * 65536 := by
  have places := (changedCells_nodup previous target).map CellKey.place_injective
  have within : ((changedCells previous target).map LuaCell.key).map CellKey.place ⊆ List.range (6 * 65536) := by
    intro place member
    obtain ⟨key, _, rfl⟩ := List.mem_map.mp member
    exact List.mem_range.mpr key.place_lt
  have bound := (List.subperm_of_subset places within).length_le
  rwa [List.length_map, List.length_map, List.length_range] at bound

/-- All changed cells together stay far below the greatest word. -/
theorem changedCells_bytes : frameBytes (changedCells previous target) < 2 ^ 32 := by
  have count := changedCells_length previous target
  have bytes := frameBytes_le (changedCells previous target)
  omega

end Changed

/-- The glyphs of a state by place; a place without a cell shows none. -/
def LuaFrameState.glyphs (state : LuaFrameState) (key : CellKey) : Option Char := state.cells[key]?.map StateCell.glyph

/-- A display takes over the glyph of one cell. -/
def showCell (display : CellKey → Option Char) (cell : LuaCell) : CellKey → Option Char :=
  fun key => if cell.key = key then cell.glyph else display key

private theorem glyphs_applyCell (cell : LuaCell) (state : LuaFrameState) :
    (applyCell cell state).glyphs = showCell state.glyphs cell := by
  funext key
  unfold applyCell showCell LuaFrameState.glyphs
  cases cell.glyph with
  | some glyph => simp only [OrdMap.getElem?_insert]; split <;> rfl
  | none => simp only [OrdMap.getElem?_erase]; split <;> rfl

structure Ticking (before : LuaFrameState) (maxBytes : UInt32) (tick : Tick) : Prop where
  shown : tick.committed.glyphs = tick.cells.foldl showCell before.glyphs
  counted : tick.bytes.toNat = frameBytes tick.cells
  within : tick.bytes ≤ maxBytes
  untouched : tick.cells = [] → tick.committed = before

theorem Ticking.start (before : LuaFrameState) (maxBytes : UInt32) :
    Ticking before maxBytes ⟨before, [], [], 0⟩ := ⟨rfl, rfl, Nat.zero_le _, fun _ => rfl⟩

open LuaFrameScheduler in
theorem Ticking.cell {before : LuaFrameState} {maxBytes : UInt32} {tick : Tick} (ticking : Ticking before maxBytes tick)
    (cell : LuaCell) (fits : frameBytes tick.cells + cell.toLuaPrimitive.size < 2 ^ 32) :
    Ticking before maxBytes (tickCell maxBytes tick cell) := by
  unfold tickCell
  simp only []
  split
  · rename_i allowed
    have counted := ticking.counted
    have size := cell.toNat_byteLen
    have bound : UInt32.greatest = 2 ^ 32 - 1 := rfl
    have exact : (tick.bytes + cell.byteLen).toNat = tick.bytes.toNat + cell.byteLen.toNat :=
      UInt32.toNat_add_of_le (by omega)
    refine ⟨?_, ?_, ?_, ?_⟩
    · rw [glyphs_applyCell, ticking.shown, List.foldl_append]
      rfl
    · rw [exact, counted, size, frameBytes_snoc]
    · rw [UInt32.le_iff_toNat_le, UInt32.toNat_saturatingAdd] at allowed
      rw [UInt32.le_iff_toNat_le, exact]
      omega
    · intro empty
      cases List.append_eq_nil_iff.mp empty |>.2
  · exact ⟨ticking.shown, ticking.counted, ticking.within, ticking.untouched⟩

open LuaFrameScheduler in
/-- Emitted and deferred cells are the cells offered, so emitted bytes never exceed theirs. -/
theorem tickCell_bytes (maxBytes : UInt32) (tick : Tick) (cell : LuaCell) :
    frameBytes (tickCell maxBytes tick cell).cells ≤ frameBytes tick.cells + cell.toLuaPrimitive.size := by
  unfold tickCell
  simp only []
  split
  · exact Nat.le_of_eq (frameBytes_snoc tick.cells cell)
  · exact Nat.le_add_right _ _

open LuaFrameScheduler in
theorem Ticking.run {before : LuaFrameState} {maxBytes : UInt32} {tick : Tick} (ticking : Ticking before maxBytes tick)
    (cells : List LuaCell) (fits : frameBytes tick.cells + frameBytes cells < 2 ^ 32) :
    Ticking before maxBytes (cells.foldl (tickCell maxBytes) tick) := by
  induction cells generalizing tick with
  | nil => exact ticking
  | cons cell rest ih =>
    rw [List.foldl_cons]
    rw [frameBytes_cons, ← Nat.add_assoc] at fits
    have here := Nat.lt_of_le_of_lt (Nat.le_add_right _ _) fits
    have grown := tickCell_bytes maxBytes tick cell
    exact ih (ticking.cell cell here) (Nat.lt_of_le_of_lt (Nat.add_le_add_right grown _) fits)

/-- All one tick can do: refuse and change nothing, or emit cells that are
committed as they will be shown. -/
inductive Schedules (budget : LuaFrameBudget) (scheduler : LuaFrameScheduler) :
    Result FrameDiff × LuaFrameScheduler → Prop where
  | refused (error : Error) : Schedules budget scheduler (.error error, scheduler)
  | emitted (diff : FrameDiff) (committed : LuaFrameState)
      (shown : committed.glyphs = diff.cells.foldl showCell scheduler.committed.glyphs)
      (counted : diff.bytes.toNat = frameBytes diff.cells) (within : diff.bytes ≤ budget.maxBytesPerTick) :
      Schedules budget scheduler (.ok diff, ⟨committed⟩)

theorem schedules (fromScene : Expr → Result GlanceCard) (next : Expr) (budget : LuaFrameBudget)
    (scheduler : LuaFrameScheduler) : Schedules budget scheduler (scheduler.schedule fromScene next budget) := by
  unfold LuaFrameScheduler.schedule
  split
  · exact .refused _
  split
  · exact .refused _
  rename_i target _
  have fits : frameBytes ((changedCells scheduler.committed target).mergeSort LuaCell.schedulesBefore) < 2 ^ 32 := by
    rw [frameBytes, ((List.mergeSort_perm _ _).map _).sum_nat]
    exact changedCells_bytes scheduler.committed target
  have ticking := (Ticking.start scheduler.committed budget.maxBytesPerTick).run _ ((Nat.zero_add _).trans_lt fits)
  simp only []
  generalize List.foldl (LuaFrameScheduler.tickCell budget.maxBytesPerTick) ⟨scheduler.committed, [], [], 0⟩
    ((changedCells scheduler.committed target).mergeSort LuaCell.schedulesBefore) = tick at ticking ⊢
  split
  · rename_i stuck
    rw [Bool.and_eq_true, List.isEmpty_iff] at stuck
    rw [ticking.untouched stuck.1]
    exact .refused _
  · exact .emitted _ _ ticking.shown ticking.counted ticking.within

open LuaFrameScheduler in
private theorem tickCell_emitted (maxBytes : UInt32) {tick : Tick} (emitted : tick.cells ≠ []) (cells : List LuaCell) :
    (cells.foldl (tickCell maxBytes) tick).cells ≠ [] := by
  induction cells generalizing tick with
  | nil => exact emitted
  | cons cell rest ih =>
    apply ih
    unfold tickCell
    simp only []
    split
    · exact List.append_ne_nil_of_left_ne_nil emitted _
    · exact emitted

/-- A budget that fits any one primitive never refuses an accepted card. -/
theorem schedule_progresses {fromScene : Expr → Result GlanceCard} {next : Expr} {budget : LuaFrameBudget}
    {scheduler : LuaFrameScheduler} {target : LuaFrameState}
    (accepted : LuaFrameState.fromGlance fromScene next = .ok target) (room : 43 ≤ budget.maxBytesPerTick.toNat) :
    ∃ diff, (scheduler.schedule fromScene next budget).1 = .ok diff := by
  have positive : budget.maxBytesPerTick ≠ 0 := by
    intro zero
    rw [zero] at room
    exact absurd room (by decide)
  rw [LuaFrameScheduler.schedule, if_neg positive, accepted]
  simp only []
  generalize (changedCells scheduler.committed target).mergeSort LuaCell.schedulesBefore = changed
  cases changed with
  | nil => exact ⟨_, rfl⟩
  | cons cell rest =>
    have fits : (0 : UInt32).saturatingAdd cell.byteLen ≤ budget.maxBytesPerTick := by
      have small := cell.primitive_size
      rw [UInt32.le_iff_toNat_le, UInt32.toNat_saturatingAdd, cell.toNat_byteLen, UInt32.toNat_zero]
      omega
    have first : (LuaFrameScheduler.tickCell budget.maxBytesPerTick ⟨scheduler.committed, [], [], 0⟩ cell).cells ≠ [] := by
      simp [LuaFrameScheduler.tickCell, fits]
    have emitted := tickCell_emitted budget.maxBytesPerTick first rest
    rw [List.foldl_cons, List.isEmpty_eq_false_iff.mpr emitted]
    exact ⟨_, rfl⟩

end StreamHost.Halo
