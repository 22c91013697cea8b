import StreamHost.Device
import StreamHost.Lib.Decimal
import StreamHost.SimValue

/-! Checks of command fields that the device crates share. -/

namespace StreamHost

def Expr.asU64 : Expr → Option UInt64
  | .number literal =>
    if literal.domain.name = "i64" ∨ literal.domain.name = "u64" then
      ((Decimal.parseI64 literal.canonical).filter fun value => 0 ≤ value).map fun value => UInt64.ofNat value.toNat
    else none
  | _ => none

def Expr.isString : Expr → Bool
  | .string _ => true
  | _ => false

def Expr.allowedKey (known : List String) (key : Expr) : Bool := known.any key.spells

namespace Access
variable (access : Access)

def mapError {α : Type} (wrap : String → DeviceError) (result : Result α) : DeviceResult α :=
  Except.mapError (fun error => wrap (access.errorText error)) result

def mapHostError {α : Type} (result : Result α) : DeviceResult α := access.mapError .host result

def ensureKind (expr : Expr) (ns name context : String) : DeviceResult Unit :=
  .rejectIf (access.fieldSym expr "kind" ≠ some (.qualified ns name)) (.host s!"expected {ns}/{name} {context}")

/-- The first entry under an unknown key is reported. -/
def ensureNoExtra (expr : Expr) (known : List String) (context : String) : DeviceResult Unit :=
  match expr with
  | .map entries =>
    match entries.find? fun entry => !entry.1.allowedKey known with
    | some (key, _) => .error (.host s!"{context} has unknown field {access.debugText key}")
    | none => .ok ()
  | _ => .error (.host s!"{context} is not a map")

def requiredList (expr : Expr) (field context : String) : DeviceResult (List Expr) := do
  match ← access.mapHostError (access.required expr field context) with
  | .list items => return items
  | _ => .error (.host s!"{context} field {field} is not a list")

/-- Every crate reads unsigned numbers alike, up to the kind of its errors. -/
def requiredU64 (wrap : String → DeviceError) (expr : Expr) (field context : String) : DeviceResult UInt64 := do
  match (← access.mapError wrap (access.required expr field context)).asU64 with
  | some value => return value
  | none => .error (wrap s!"{context} field {field} is not u64")

end Access

end StreamHost
