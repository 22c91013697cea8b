import StreamHost.Proofs.FrameConvergence

/-! When a diff sends changed glyphs only. States are compared cell by cell, so a
cell whose priority alone has changed is sent again with the glyph that is shown. -/

namespace StreamHost.Proofs.GlyphDiff
open Halo FrameConvergence

/-- The emitted cells change the display, and the cells of the diff are at the places
where the two frames show different glyphs. -/
structure SendsGlyphs (before target : LuaFrameState) (diff : FrameDiff) : Prop where
  emitted : ∀ cell ∈ diff.cells, before.glyphs cell.key ≠ cell.glyph
  places : ∀ key, key ∈ (diff.cells ++ diff.deferred).map LuaCell.key ↔ before.glyphs key ≠ target.glyphs key

/-- The frames show the same glyph at the place, with different priorities. -/
def Reprioritized (before target : LuaFrameState) (key : CellKey) : Prop :=
  ∃ glyph first last, before.cells[key]? = some ⟨glyph, first⟩ ∧ target.cells[key]? = some ⟨glyph, last⟩ ∧ first ≠ last

section Places
variable {before target : LuaFrameState} {key : CellKey}

theorem mem_changed_keys : key ∈ (changedCells before target).map LuaCell.key ↔ before.cells[key]? ≠ target.cells[key]? := by
  rw [← not_iff_not, not_not, ← changedCell_eq_none, List.mem_map]
  constructor
  · intro absent
    refine Option.eq_none_iff_forall_ne_some.mpr fun cell changed => absent ⟨cell, ?_, changedCell_key _ _ changed⟩
    rw [mem_changedCells, changedCell_key _ _ changed, changed]
  · rintro none ⟨cell, member, rfl⟩
    cases none.symm.trans (mem_changedCells.mp member)

private theorem glyph_of_changed {cell : LuaCell} (member : cell ∈ changedCells before target) :
    cell.glyph = target.glyphs cell.key := by
  have changed := mem_changedCells.mp member
  simp only [changedCell] at changed
  split at changed
  · cases changed
  · exact (congrArg LuaCell.glyph (Option.some.inj changed)).symm

theorem Reprioritized.glyphs (reprioritized : Reprioritized before target key) : before.glyphs key = target.glyphs key := by
  obtain ⟨glyph, first, last, here, there, _⟩ := reprioritized
  rw [LuaFrameState.glyphs, LuaFrameState.glyphs, here, there]
  rfl

/-- Cells differ where glyphs do, and where only priorities do. -/
theorem cells_ne_iff : before.cells[key]? ≠ target.cells[key]? ↔
    before.glyphs key ≠ target.glyphs key ∨ Reprioritized before target key := by
  unfold LuaFrameState.glyphs Reprioritized
  rcases before.cells[key]? with _ | ⟨first, firstPriority⟩
  all_goals rcases target.cells[key]? with _ | ⟨last, lastPriority⟩
  all_goals simp
  tauto

end Places

section Diff
variable {fromScene : Expr → Result GlanceCard} {previous next : Expr} {budget : LuaFrameBudget}
  {before target : LuaFrameState} {scheduler : LuaFrameScheduler} {diff : FrameDiff}

private theorem sendsGlyphs_iff (parts : (diff.cells ++ diff.deferred).Perm (changedCells before target)) :
    SendsGlyphs before target diff ↔ ∀ key, ¬ Reprioritized before target key := by
  have places (key : CellKey) : key ∈ (diff.cells ++ diff.deferred).map LuaCell.key ↔
      before.glyphs key ≠ target.glyphs key ∨ Reprioritized before target key := by
    rw [(parts.map LuaCell.key).mem_iff, mem_changed_keys, cells_ne_iff]
  constructor
  · intro sends key reprioritized
    have sent := (places key).mpr (.inr reprioritized)
    exact (sends.places key).mp sent reprioritized.glyphs
  · intro none
    have exact (key : CellKey) : key ∈ (diff.cells ++ diff.deferred).map LuaCell.key ↔
        before.glyphs key ≠ target.glyphs key := (places key).trans (or_iff_left (none key))
    refine ⟨fun cell member => ?_, exact⟩
    have changed : cell ∈ diff.cells ++ diff.deferred := List.mem_append_left _ member
    rw [glyph_of_changed (parts.subset changed)]
    exact (exact cell.key).mp (List.mem_map_of_mem changed)

private theorem schedule_parts (accepted : LuaFrameState.fromGlance fromScene next = .ok target)
    (scheduled : (scheduler.schedule fromScene next budget).1 = .ok diff) :
    (diff.cells ++ diff.deferred).Perm (changedCells scheduler.committed target) := by
  by_cases zero : budget.maxBytesPerTick = 0
  · rw [LuaFrameScheduler.schedule, if_pos zero] at scheduled
    cases scheduled
  · have all : Scheduled budget target scheduler.committed (scheduler.schedule fromScene next budget) :=
      schedule_scheduled zero accepted
    generalize scheduler.schedule fromScene next budget = result at all scheduled
    cases all with
    | refused => cases scheduled
    | emitted _ _ parts =>
      cases scheduled
      exact parts

variable (before) in
private theorem diffGlance_eq (accepted : LuaFrameState.fromGlance fromScene previous = .ok before) :
    diffGlance fromScene previous next budget = ((⟨before⟩ : LuaFrameScheduler).schedule fromScene next budget).1 := by
  rw [diffGlance, LuaFrameScheduler.fromGlance, accepted]
  rfl

/-- What a call sends is exactly the changed glyphs when, and only when, no glyph that
stays has another priority; so it is with the diff of two frames. -/
theorem sends_changed_glyphs_iff (accepted : LuaFrameState.fromGlance fromScene next = .ok target) :
    (∀ (scheduler : LuaFrameScheduler) (diff : FrameDiff), (scheduler.schedule fromScene next budget).1 = .ok diff →
      (SendsGlyphs scheduler.committed target diff ↔ ∀ key, ¬ Reprioritized scheduler.committed target key)) ∧
    (∀ previous before diff, LuaFrameState.fromGlance fromScene previous = .ok before →
      diffGlance fromScene previous next budget = .ok diff →
        (SendsGlyphs before target diff ↔ ∀ key, ¬ Reprioritized before target key)) := by
  constructor
  · intro scheduler diff scheduled
    exact sendsGlyphs_iff (schedule_parts accepted scheduled)
  · intro previous before diff shown made
    rw [diffGlance_eq before shown] at made
    have parts : (diff.cells ++ diff.deferred).Perm (changedCells before target) := schedule_parts accepted made
    exact sendsGlyphs_iff parts

end Diff

/-- The same short card, marked as safety content or not. -/
def titleScene : Expr → Result GlanceCard
  | .bool marked => .ok { title := "H", metric := none, action := none, urgency := "info", bypassBudget := marked }
  | _ => .error (.eval "not a glance card")

private theorem title_accepted (marked : Bool) : ∃ target, LuaFrameState.fromGlance titleScene (.bool marked) = .ok target ∧
    target.cells[(⟨.title, 0⟩ : CellKey)]? = some ⟨'H', if marked then .warrant else .normal⟩ := by
  cases marked
  · exact ⟨_, rfl, rfl⟩
  · exact ⟨_, rfl, rfl⟩

/-- An unchanged title is sent again when the card is marked. -/
theorem marked_title_resent : ¬ ∀ (fromScene : Expr → Result GlanceCard) (previous next : Expr) (budget : LuaFrameBudget)
    (before target : LuaFrameState) (diff : FrameDiff), LuaFrameState.fromGlance fromScene previous = .ok before →
      LuaFrameState.fromGlance fromScene next = .ok target → diffGlance fromScene previous next budget = .ok diff →
        SendsGlyphs before target diff := by
  intro always
  obtain ⟨before, shown, plain⟩ := title_accepted false
  obtain ⟨target, accepted, marked⟩ := title_accepted true
  obtain ⟨diff, scheduled⟩ : ∃ diff,
      ((⟨before⟩ : LuaFrameScheduler).schedule titleScene (.bool true) ⟨64⟩).1 = .ok diff :=
    schedule_progresses accepted (by decide)
  have sends : SendsGlyphs before target diff :=
    always titleScene (.bool false) (.bool true) ⟨64⟩ before target diff shown accepted
      ((diffGlance_eq before shown).trans scheduled)
  have parts : (diff.cells ++ diff.deferred).Perm (changedCells before target) := schedule_parts accepted scheduled
  exact (sendsGlyphs_iff parts).mp sends ⟨.title, 0⟩ ⟨'H', .normal, .warrant, plain, marked, nofun⟩

theorem first_title_sent : ∃ target diff, (LuaFrameScheduler.empty.schedule titleScene (.bool true) ⟨64⟩).1 = .ok diff ∧
    SendsGlyphs .empty target diff := by
  obtain ⟨target, accepted, _⟩ := title_accepted true
  obtain ⟨diff, scheduled⟩ : ∃ diff, (LuaFrameScheduler.empty.schedule titleScene (.bool true) ⟨64⟩).1 = .ok diff :=
    schedule_progresses accepted (by decide)
  refine ⟨target, diff, scheduled, ((sends_changed_glyphs_iff accepted).1 .empty diff scheduled).mpr ?_⟩
  intro key ⟨glyph, first, last, here, _⟩
  cases here

end StreamHost.Proofs.GlyphDiff
