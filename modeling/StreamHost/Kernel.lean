import Mathlib.Algebra.Order.Ring.Int
import Mathlib.Data.List.Sort

/-! The kernel values the host crates exchange: symbols, capability names,
expressions and errors, as far as the modelled code reads or builds them. -/

namespace StreamHost
open Std

structure Symbol where
  ns : Option String
  name : String
deriving DecidableEq, Repr

namespace Symbol

def new (name : String) : Symbol := ⟨none, name⟩

def qualified (ns name : String) : Symbol := ⟨some ns, name⟩

def asQualifiedStr (symbol : Symbol) : String :=
  match symbol.ns with
  | some ns => ns ++ "/" ++ symbol.name
  | none => symbol.name

instance : ToString Symbol := ⟨asQualifiedStr⟩

instance : Ord Symbol := ⟨compareLex (compareOn ns) (compareOn name)⟩

instance : TransOrd Symbol := inferInstanceAs (TransCmp (compareLex (compareOn ns) (compareOn name)))

instance : LawfulEqOrd Symbol where
  eq_of_compare {first second} same := by
    obtain ⟨sameNs, sameName⟩ := Ordering.then_eq_eq.mp same
    simp only [compareOn, Std.compare_eq_iff_eq] at sameNs sameName
    cases first; cases second
    cases sameNs; cases sameName
    rfl

end Symbol

structure CapabilityName where
  name : String
deriving DecidableEq, Repr

namespace CapabilityName

def new (name : String) : CapabilityName := ⟨name⟩

def asStr (capability : CapabilityName) : String := capability.name

instance : ToString CapabilityName := ⟨asStr⟩

end CapabilityName

structure NumberLiteral where
  domain : Symbol
  canonical : String
deriving DecidableEq, Repr

/-- Kernel expressions. Variants no modelled function looks into share `other`. -/
inductive Expr where
  | nil
  | bool (value : Bool)
  | number (literal : NumberLiteral)
  | string (text : String)
  | symbol (symbol : Symbol)
  | bytes (data : List UInt8)
  | list (items : List Expr)
  | map (entries : List (Expr × Expr))
  | other (variant : String)
deriving Repr

inductive Error where
  | eval (message : String)
  | hostError (message : String)
  | capabilityDenied (capability : CapabilityName)
  | other (message : String)
deriving DecidableEq, Repr

/-- The kernel's type mismatch, by its two texts. -/
def Error.typeMismatch (expected found : String) : Error := .other s!"expected {expected}, found {found}"

abbrev Result := Except Error

end StreamHost
