import StreamHost.Halo.LuaRender
import StreamHost.Kernel
import StreamHost.Lib.OrdMap

/-! Stateful, byte-budgeted scheduling of glance cards onto the display. -/

namespace StreamHost.Halo
open Std

structure LuaFrameBudget where
  maxBytesPerTick : UInt32
deriving DecidableEq, Repr

structure FrameDiff where
  cells : List LuaCell
  bytes : UInt32
  deferred : List LuaCell
deriving DecidableEq, Repr

def FrameDiff.isComplete (diff : FrameDiff) : Bool := diff.deferred.isEmpty

structure CellKey where
  region : LuaRegion
  index : UInt16
deriving DecidableEq, Repr

namespace CellKey

instance : Ord CellKey := ⟨compareLex (compareOn region) (compareOn index)⟩

instance : TransOrd CellKey := inferInstanceAs (TransCmp (compareLex (compareOn region) (compareOn index)))

instance : LawfulEqOrd CellKey where
  eq_of_compare {first second} same := by
    obtain ⟨sameRegion, sameIndex⟩ := Ordering.then_eq_eq.mp same
    simp only [compareOn, Std.compare_eq_iff_eq] at sameRegion sameIndex
    cases first; cases second
    cases sameRegion; cases sameIndex
    rfl

end CellKey

structure StateCell where
  glyph : Char
  priority : LuaCellPriority
deriving DecidableEq, Repr

structure GlanceMetric where
  label : String
  value : String

structure GlanceAction where
  label : String

/-- A canonical glance card, as far as the display reads it. -/
structure GlanceCard where
  title : String
  metric : Option GlanceMetric
  action : Option GlanceAction
  urgency : String
  bypassBudget : Bool

structure LuaFrameState where
  cells : ExtTreeMap CellKey StateCell

namespace LuaFrameState

def empty : LuaFrameState := ⟨∅⟩

/-- Writes the glyphs from `index` on; a glyph past the last index is an error. -/
def insertText (region : LuaRegion) (priority : LuaCellPriority) :
    Nat → List Char → ExtTreeMap CellKey StateCell → Result (ExtTreeMap CellKey StateCell)
  | _, [], cells => .ok cells
  | index, glyph :: rest, cells =>
    if 65535 < index then .error (.hostError s!"Halo Lua region {region.token} exceeds 65535 glyph cells")
    else insertText region priority (index + 1) rest
      (cells.insert ⟨region, UInt16.ofNat index⟩ ⟨glyph, priority⟩)

def insertPart {α : Type} (region : LuaRegion) (priority : LuaCellPriority) (text : α → String) (part : Option α)
    (cells : ExtTreeMap CellKey StateCell) : Result (ExtTreeMap CellKey StateCell) :=
  match part with
  | some part => insertText region priority 0 (text part).toList cells
  | none => .ok cells

def contentPriority (card : GlanceCard) : LuaCellPriority := if card.bypassBudget then .warrant else .normal

def urgencyPriority (card : GlanceCard) : LuaCellPriority :=
  if card.bypassBudget || card.urgency = "warrant" then .warrant
  else if card.urgency = "warn" || card.urgency = "error" || card.urgency = "critical" then .urgent
  else .normal

def fromCard (card : GlanceCard) : Result LuaFrameState := do
  let priority := contentPriority card
  let cells ← insertText .title priority 0 card.title.toList ∅
  let cells ← insertPart .metricLabel priority GlanceMetric.label card.metric cells
  let cells ← insertPart .metricValue priority GlanceMetric.value card.metric cells
  let cells ← insertPart .actionLabel priority GlanceAction.label card.action cells
  let cells ← insertText .urgency (urgencyPriority card) 0 card.urgency.toList cells
  return ⟨if card.bypassBudget then cells.insert ⟨.warrant, 0⟩ ⟨'!', .warrant⟩ else cells⟩

/-- `fromScene` reads a canonical glance card from an expression. -/
def fromGlance (fromScene : Expr → Result GlanceCard) (frame : Expr) : Result LuaFrameState :=
  fromScene frame >>= fromCard

end LuaFrameState

def changedCell (previous target : LuaFrameState) (key : CellKey) : Option LuaCell :=
  let previousCell := previous.cells[key]?
  let targetCell := target.cells[key]?
  if previousCell = targetCell then none else some {
    region := key.region
    index := key.index
    glyph := targetCell.map StateCell.glyph
    priority := ((targetCell.or previousCell).map StateCell.priority).getD .normal }

def changedCells (previous target : LuaFrameState) : List LuaCell :=
  let keys := ExtTreeSet.ofList (previous.cells.keys ++ target.cells.keys) compare
  keys.toList.filterMap (changedCell previous target)

namespace LuaCell

def key (cell : LuaCell) : CellKey := ⟨cell.region, cell.index⟩

def schedulesBefore (first second : LuaCell) : Bool :=
  (compareLex (compareOn priority) (compareLex (compareOn region) (compareOn index)) first second).isLE

end LuaCell

def applyCell (cell : LuaCell) (state : LuaFrameState) : LuaFrameState :=
  match cell.glyph with
  | some glyph => ⟨state.cells.insert cell.key ⟨glyph, cell.priority⟩⟩
  | none => ⟨state.cells.erase cell.key⟩

structure LuaFrameScheduler where
  committed : LuaFrameState

structure Tick where
  committed : LuaFrameState
  cells : List LuaCell
  deferred : List LuaCell
  bytes : UInt32

namespace LuaFrameScheduler

def empty : LuaFrameScheduler := ⟨.empty⟩

def fromGlance (fromScene : Expr → Result GlanceCard) (previous : Expr) : Result LuaFrameScheduler := do
  return ⟨← LuaFrameState.fromGlance fromScene previous⟩

/-- One turn of the scheduling loop: emits and commits the cell, or defers it. -/
def tickCell (maxBytes : UInt32) (tick : Tick) (cell : LuaCell) : Tick :=
  let cellBytes := cell.byteLen
  if tick.bytes.saturatingAdd cellBytes ≤ maxBytes then
    { tick with
      bytes := tick.bytes + cellBytes
      committed := applyCell cell tick.committed
      cells := tick.cells ++ [cell] }
  else { tick with deferred := tick.deferred ++ [cell] }

def smallestBytes (cells : List LuaCell) : UInt32 := ((cells.map LuaCell.byteLen).min?).getD 0

/-- The scheduler is returned as the tick left it, on errors too. -/
def schedule (fromScene : Expr → Result GlanceCard) (next : Expr) (budget : LuaFrameBudget)
    (scheduler : LuaFrameScheduler) : Result FrameDiff × LuaFrameScheduler :=
  if budget.maxBytesPerTick = 0 then
    (.error (.eval "Halo Lua frame budget must be greater than zero"), scheduler) else
  match LuaFrameState.fromGlance fromScene next with
  | .error error => (.error error, scheduler)
  | .ok target =>
    let changed := (changedCells scheduler.committed target).mergeSort LuaCell.schedulesBefore
    let tick := changed.foldl (tickCell budget.maxBytesPerTick) ⟨scheduler.committed, [], [], 0⟩
    if tick.cells.isEmpty && !tick.deferred.isEmpty then
      (.error (.hostError (s!"Halo Lua frame budget {budget.maxBytesPerTick} cannot fit the smallest changed cell " ++
        s!"({smallestBytes tick.deferred} bytes)")), ⟨tick.committed⟩)
    else (.ok ⟨tick.cells, tick.bytes, tick.deferred⟩, ⟨tick.committed⟩)

end LuaFrameScheduler

def diffGlance (fromScene : Expr → Result GlanceCard) (previous next : Expr) (budget : LuaFrameBudget) :
    Result FrameDiff := do
  ((← LuaFrameScheduler.fromGlance fromScene previous).schedule fromScene next budget).1

end StreamHost.Halo
