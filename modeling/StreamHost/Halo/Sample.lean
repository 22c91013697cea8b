import StreamHost.Lib.Decimal
import StreamHost.Lib.Result
import StreamHost.SimValue

/-! Halo button samples and their expression records. -/

namespace StreamHost.Halo

structure DeviceSampleError where
  message : String
deriving DecidableEq, Repr

abbrev DeviceSampleResult := Except DeviceSampleError

inductive HaloButton where
  | primary
  | secondary
deriving DecidableEq, Repr

namespace HaloButton

def token : HaloButton → String
  | primary => "primary"
  | secondary => "secondary"

def symbol (button : HaloButton) : Symbol := .qualified "stream/xr-button" button.token

def fromSymbol (symbol : Symbol) : DeviceSampleResult HaloButton :=
  if symbol.ns ≠ some "stream/xr-button" then
    .error ⟨s!"Halo button must be in stream/xr-button, found {symbol}"⟩
  else match symbol.name with
  | "primary" => .ok primary
  | "secondary" => .ok secondary
  | other => .error ⟨s!"unknown Halo button {other}"⟩

end HaloButton

structure HaloButtonSample where
  seq : UInt64
  button : HaloButton
  pressed : Bool
  tNs : UInt64
deriving DecidableEq, Repr

def HaloButtonSample.toExpr (build : Build) (symbols : SampleSymbols) (sample : HaloButtonSample) : Expr :=
  build.map [
    ("kind", .symbol symbols.record),
    ("sample", .symbol (symbols.kind "xr/button")),
    ("seq", build.uint sample.seq),
    ("device", .symbol symbols.haloDevice),
    ("button", .symbol sample.button.symbol),
    ("pressed", .bool sample.pressed),
    ("t-ns", build.uint sample.tNs)]

def buttonFields : List String := ["kind", "sample", "seq", "device", "button", "pressed", "t-ns"]

/-- Looks at the key of one entry; `found` holds the names of the entries before it. -/
def ensureField (found : List String) (entry : Expr × Expr) : DeviceSampleResult (List String) :=
  match entry.1.bareName with
  | none => .error ⟨"Halo button field names must be bare names"⟩
  | some name => do
    .rejectIf (name ∉ buttonFields) ⟨s!"unknown Halo button field {name}"⟩
    .rejectIf (name ∈ found) ⟨s!"duplicate Halo button field {name}"⟩
    return name :: found

def ensureFields : Expr → DeviceSampleResult Unit
  | .map entries => do
    let found ← entries.foldlM ensureField []
    .rejectIf (found.length ≠ buttonFields.length) ⟨"Halo button sample is missing a required field"⟩
  | _ => .error ⟨"Halo button sample must be a map"⟩

section Read
variable (access : Access)

def mapSampleError {α : Type} (result : Result α) : DeviceSampleResult α :=
  Except.mapError (fun error => ⟨access.errorText error⟩) result

def requiredSymbol (expr : Expr) (field : String) : DeviceSampleResult Symbol :=
  mapSampleError access (access.requiredSym expr field "Halo button")

def expectSymbol (expr : Expr) (field : String) (expected : Symbol) : DeviceSampleResult Unit := do
  let found ← requiredSymbol access expr field
  .rejectIf (found ≠ expected) ⟨s!"Halo button field {field} must be {expected}, found {found}"⟩

def requiredU64 (expr : Expr) (field : String) : DeviceSampleResult UInt64 := do
  match (← mapSampleError access (access.required expr field "Halo button")) with
  | .number number =>
    if number.domain.name = "i64" ∨ number.domain.name = "u64" then
      match Decimal.parseU64 number.canonical.toList with
      | some value => return value
      | none => .error ⟨s!"Halo button field {field} must be u64"⟩
    else .error ⟨s!"Halo button field {field} must be u64"⟩
  | _ => .error ⟨s!"Halo button field {field} must be u64"⟩

def HaloButtonSample.fromExpr (symbols : SampleSymbols) (expr : Expr) : DeviceSampleResult HaloButtonSample := do
  ensureFields expr
  expectSymbol access expr "kind" symbols.record
  expectSymbol access expr "sample" (symbols.kind "xr/button")
  expectSymbol access expr "device" symbols.haloDevice
  let seq ← requiredU64 access expr "seq"
  let button ← HaloButton.fromSymbol (← requiredSymbol access expr "button")
  let pressed ← mapSampleError access (access.requiredBool expr "pressed" "Halo button")
  let tNs ← requiredU64 access expr "t-ns"
  return { seq, button, pressed, tNs }

end Read

end StreamHost.Halo
