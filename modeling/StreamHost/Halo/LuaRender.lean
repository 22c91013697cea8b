import StreamHost.Lib.Saturating
import Mathlib.Data.List.Sort

/-! Lua cell primitives of the Halo display link. -/

namespace StreamHost.Halo
open Std

inductive LuaRegion where
  | title
  | metricLabel
  | metricValue
  | actionLabel
  | urgency
  | warrant
deriving DecidableEq, Repr

namespace LuaRegion

def token : LuaRegion → String
  | title => "title"
  | metricLabel => "metric_label"
  | metricValue => "metric_value"
  | actionLabel => "action_label"
  | urgency => "urgency"
  | warrant => "warrant"

/-- The place in the order of declaration, by which regions compare. -/
def rank : LuaRegion → Nat
  | title => 0
  | metricLabel => 1
  | metricValue => 2
  | actionLabel => 3
  | urgency => 4
  | warrant => 5

instance : Ord LuaRegion := ⟨compareOn rank⟩

instance : TransOrd LuaRegion := inferInstanceAs (TransCmp (compareOn rank))

instance : LawfulEqOrd LuaRegion where
  eq_of_compare {first second} same := by
    have sameRank : first.rank = second.rank := Std.compare_eq_iff_eq.mp same
    cases first <;> cases second <;> first | rfl | cases sameRank

end LuaRegion

inductive LuaCellPriority where
  | warrant
  | urgent
  | normal
deriving DecidableEq, Repr

namespace LuaCellPriority

def rank : LuaCellPriority → Nat
  | warrant => 0
  | urgent => 1
  | normal => 2

instance : Ord LuaCellPriority := ⟨compareOn rank⟩

instance : TransOrd LuaCellPriority := inferInstanceAs (TransCmp (compareOn rank))

end LuaCellPriority

/-- One changed glyph, or a cleared cell when there is no glyph. -/
structure LuaCell where
  region : LuaRegion
  index : UInt16
  glyph : Option Char
  priority : LuaCellPriority
deriving DecidableEq, Repr

namespace LuaCell

def glyphText (cell : LuaCell) : String :=
  match cell.glyph with
  | some glyph => toString glyph.toNat
  | none => "nil"

def primitiveText (cell : LuaCell) : String :=
  "sim.set_cell(\"" ++ cell.region.token ++ "\"," ++ toString cell.index.toNat ++ "," ++ cell.glyphText ++ ")\n"

def toLuaPrimitive (cell : LuaCell) : ByteArray := cell.primitiveText.toByteArray

/-- A length past a word is reported as the greatest word. -/
def byteLen (cell : LuaCell) : UInt32 := UInt32.ofNat (min cell.toLuaPrimitive.size UInt32.greatest)

end LuaCell

def encodeLuaCells (cells : List LuaCell) : ByteArray :=
  cells.foldl (fun bytes cell => bytes ++ cell.toLuaPrimitive) .empty

end StreamHost.Halo
