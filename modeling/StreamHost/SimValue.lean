import StreamHost.Kernel

/-! The value helpers and renderings the crates take from outside the repository,
as parameters with the laws that are relied on. -/

namespace StreamHost

/-- Reading fields of kernel expressions, and rendering expressions and errors. -/
structure Access where
  field : Expr → String → Option Expr
  fieldSym : Expr → String → Option Symbol
  required : Expr → String → String → Result Expr
  requiredSym : Expr → String → String → Result Symbol
  requiredStr : Expr → String → String → Result String
  requiredBool : Expr → String → String → Result Bool
  errorText : Error → String
  debugText : Expr → String

/-- Building expressions: maps from field names, unsigned numbers and qualified symbols. -/
structure Build where
  map : List (String × Expr) → Expr
  uint : UInt64 → Expr
  qsym : String → String → Expr

structure TextBuild extends Build where
  text : String → Expr

/-- The symbols of the sample crates: the record kind, sample kinds by bare name,
and the Halo device. -/
structure SampleSymbols where
  record : Symbol
  kind : String → Symbol
  haloDevice : Symbol

def Expr.spells (name : String) : Expr → Bool
  | .symbol found => found.ns.isNone && found.name = name
  | .string text => text = name
  | _ => false

/-- The key is the name as a bare symbol. -/
def Expr.isBare (name : String) : Expr → Bool
  | .symbol found => found.ns.isNone && found.name = name
  | _ => false

/-- The name that a bare symbol or a string spells. -/
def Expr.bareName : Expr → Option String
  | .symbol found => if found.ns.isNone then some found.name else none
  | .string text => some text
  | _ => none

def Expr.entries : Expr → List (Expr × Expr)
  | .map entries => entries
  | _ => []

def Expr.asSymbol : Expr → Option Symbol
  | .symbol found => some found
  | _ => none

/-- The first entry of the name, under either spelling of its key. -/
def firstField (entries : List (Expr × Expr)) (name : String) : Option Expr :=
  (entries.find? fun entry => entry.1.spells name).map Prod.snd

/-- The first entry under the name as a bare symbol; a string key is passed over. -/
def symbolField (entries : List (Expr × Expr)) (name : String) : Option Expr :=
  (entries.find? fun entry => entry.1.isBare name).map Prod.snd

/-- Optional fields are read from the first entry whose key is the bare symbol. -/
structure Access.ReadsSymbols (access : Access) : Prop where
  field : ∀ entries name, access.field (.map entries) name = symbolField entries name
  fieldSym : ∀ entries name, access.fieldSym (.map entries) name = (symbolField entries name).bind Expr.asSymbol

/-- Required fields are read from maps only, from the first entry of their name under either spelling. -/
structure Access.Requires (access : Access) : Prop where
  required : ∀ {expr name context value}, access.required expr name context = .ok value ↔
    ∃ entries, expr = .map entries ∧ firstField entries name = some value
  requiredSym : ∀ {expr name context symbol}, access.requiredSym expr name context = .ok symbol ↔
    ∃ entries, expr = .map entries ∧ firstField entries name = some (.symbol symbol)
  requiredStr : ∀ {expr name context text}, access.requiredStr expr name context = .ok text ↔
    ∃ entries, expr = .map entries ∧ firstField entries name = some (.string text)
  requiredBool : ∀ {expr name context value}, access.requiredBool expr name context = .ok value ↔
    ∃ entries, expr = .map entries ∧ firstField entries name = some (.bool value)

def requiredAs {α : Type} (variant : Expr → Option α) (expr : Expr) (name context : String) : Result α :=
  match expr with
  | .map entries => ((firstField entries name).bind variant).elim (.error (.eval s!"{context} is missing {name}")) .ok
  | _ => .error (.eval s!"{context} is not a map")

/-- Fields read by these laws, under made-up error texts. -/
def plainAccess : Access where
  field
    | .map entries, name => symbolField entries name
    | _, _ => none
  fieldSym
    | .map entries, name => (symbolField entries name).bind Expr.asSymbol
    | _, _ => none
  required := requiredAs some
  requiredSym := requiredAs Expr.asSymbol
  requiredStr := requiredAs fun | .string text => some text | _ => none
  requiredBool := requiredAs fun | .bool value => some value | _ => none
  errorText
    | .eval message | .hostError message | .other message => message
    | .capabilityDenied capability => capability.name
  debugText _ := "expression"

/-- Maps keep their fields under bare symbol keys, numbers are decimal. -/
def plainBuild : Build where
  map fields := .map (fields.map fun field => (.symbol (.new field.1), field.2))
  uint value := .number ⟨.new "u64", toString value.toNat⟩
  qsym ns name := .symbol (.qualified ns name)

def plainTextBuild : TextBuild := { plainBuild with text := .string }

theorem requiredAs_eq_ok {α : Type} {variant : Expr → Option α} {make : α → Expr}
    (only : ∀ found value, variant found = some value ↔ found = make value) {expr : Expr} {name context : String}
    {value : α} : requiredAs variant expr name context = .ok value ↔
      ∃ entries, expr = .map entries ∧ firstField entries name = some (make value) := by
  unfold requiredAs
  split
  · rename_i entries
    have variants : (firstField entries name).bind variant = some value ↔ firstField entries name = some (make value) := by
      simp only [Option.bind_eq_some_iff, only, exists_eq_right]
    simp only [Expr.map.injEq, exists_eq_left', ← variants]
    cases (firstField entries name).bind variant <;> simp
  · rename_i other
    refine iff_of_false nofun ?_
    rintro ⟨entries, same, _⟩
    exact other entries same

theorem plainAccess_lawful : plainAccess.Requires where
  required := requiredAs_eq_ok fun found value => Option.some_inj
  requiredSym := requiredAs_eq_ok fun found symbol => by cases found <;> simp [Expr.asSymbol]
  requiredStr := requiredAs_eq_ok fun found text => by cases found <;> simp
  requiredBool := requiredAs_eq_ok fun found value => by cases found <;> simp

theorem plainAccess_reads : plainAccess.ReadsSymbols := ⟨fun _ _ => rfl, fun _ _ => rfl⟩

end StreamHost
