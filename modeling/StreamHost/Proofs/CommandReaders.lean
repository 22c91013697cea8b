import StreamHost.Proofs.FieldChecks
import StreamHost.Wristbridge.Session

/-! Which forwarded watch commands read alike from the front and from the back. The
validators look at the first entry of each known field and refuse unknown names,
but a field that is repeated is forwarded with all its values. -/

namespace StreamHost.Proofs.CommandReaders
open Wristbridge FieldChecks

/-- The fields a command of this kind may and must have. -/
def fields : WatchCommandKind → List String
  | .notify => ["kind", "command", "title", "lines", "urgency"]
  | .haptic => ["kind", "command", "pattern"]
  | .setFaceSlot => ["kind", "command", "slot", "value"]
  | .setAlarm => ["kind", "command", "id", "at-ms", "label"]
  | .privacyMode => ["kind", "command", "enabled", "window-ms"]

def patternFields : List String := ["kind", "id", "steps", "meaning", "repeat"]

def stepFields : List String := ["on-ms", "off-ms"]

def pattern (command : Expr) : Expr := (firstField command.entries "pattern").getD .nil

def steps (command : Expr) : List Expr :=
  match firstField (pattern command).entries "steps" with
  | some (.list items) => items
  | _ => []

/-- Each known field occurs once at most, so that readers from both ends agree. -/
structure ReadsAlike (known : List String) (entries : List (Expr × Expr)) : Prop where
  once : ∀ field ∈ known, (fieldNames entries).count (some field) ≤ 1
  alike : ∀ field ∈ known, lastField entries field = firstField entries field

structure Unambiguous (packet : WatchCommandPacket) : Prop where
  whole : ReadsAlike (fields packet.command) packet.payload.entries
  pattern : packet.command = .haptic → ReadsAlike patternFields (pattern packet.payload).entries
  steps : packet.command = .haptic → ∀ step ∈ steps packet.payload, ReadsAlike stepFields step.entries

/-- The kind a command names. -/
def namedKind (command : Expr) : Option WatchCommandKind :=
  ((firstField command.entries "command").bind Expr.asSymbol).bind fun symbol =>
    (WatchCommandKind.fromSymbol symbol).toOption

/-- No map of the command has more entries than it has known fields. -/
structure NoSurplus (command : Expr) : Prop where
  whole : ∀ named, namedKind command = some named → command.entries.length ≤ (fields named).length
  pattern : namedKind command = some .haptic → (pattern command).entries.length ≤ 5
  steps : namedKind command = some .haptic → ∀ step ∈ steps command, step.entries.length ≤ 2

private theorem Covers.readsAlike_iff {known : List String} {entries : List (Expr × Expr)} (covers : Covers known entries)
    (distinct : known.Nodup) : ReadsAlike known entries ↔ entries.length ≤ known.length := by
  rw [← covers.nodup_iff distinct]
  constructor
  · exact fun alike => covers.nodup_iff_count.mpr alike.once
  · exact fun once => ⟨covers.nodup_iff_count.mp once, fun _ _ => lastField_eq_firstField once⟩

section Present
variable {access : Access} (requires : access.Requires) {expr : Expr} {field context : String}
  {wrap : String → DeviceError}

private theorem present_of_first {value : Expr} (found : ∃ entries, expr = .map entries ∧ firstField entries field = some value) :
    some field ∈ fieldNames expr.entries := by
  obtain ⟨entries, rfl, first⟩ := found
  exact mem_fieldNames.mpr ⟨value, first⟩

include requires

private theorem present_required {value : Expr} (read : access.mapError wrap (access.required expr field context) = .ok value) :
    some field ∈ fieldNames expr.entries :=
  present_of_first (requires.required.mp (Except.mapError_eq_ok.mp read))

private theorem present_requiredSym {symbol : Symbol}
    (read : access.mapError wrap (access.requiredSym expr field context) = .ok symbol) :
    some field ∈ fieldNames expr.entries :=
  present_of_first (requires.requiredSym.mp (Except.mapError_eq_ok.mp read))

private theorem present_requiredStr {text : String}
    (read : access.mapError wrap (access.requiredStr expr field context) = .ok text) :
    some field ∈ fieldNames expr.entries :=
  present_of_first (requires.requiredStr.mp (Except.mapError_eq_ok.mp read))

private theorem present_requiredBool {value : Bool}
    (read : access.mapError wrap (access.requiredBool expr field context) = .ok value) :
    some field ∈ fieldNames expr.entries :=
  present_of_first (requires.requiredBool.mp (Except.mapError_eq_ok.mp read))

private theorem present_requiredU64 {value : UInt64} (read : requiredU64 access expr field context = .ok value) :
    some field ∈ fieldNames expr.entries := by
  rw [requiredU64, Access.requiredU64, Except.bind_eq_ok] at read
  obtain ⟨found, first, _⟩ := read
  exact present_required requires first

private theorem requiredList_ok {items : List Expr} (read : access.requiredList expr field context = .ok items) :
    firstField expr.entries field = some (.list items) := by
  rw [Access.requiredList, Except.bind_eq_ok] at read
  obtain ⟨found, first, listed⟩ := read
  obtain ⟨entries, rfl, found⟩ := requires.required.mp (Except.mapError_eq_ok.mp first)
  split at listed
  · cases listed
    exact found
  · cases listed

end Present

section Accepted
variable {access : Access} (reads : access.ReadsSymbols) (requires : access.Requires)

private theorem ensureNoExtra_named {expr : Expr} {known : List String} {context : String}
    (checked : access.ensureNoExtra expr known context = .ok ()) :
    ∀ name ∈ fieldNames expr.entries, name ∈ known.map some := by
  obtain ⟨entries, rfl, named⟩ := ensureNoExtra_ok_iff.mp checked
  exact named

include reads in
private theorem present_kind {entries : List (Expr × Expr)} {ns name context : String}
    (checked : access.ensureKind (.map entries) ns name context = .ok ()) : some "kind" ∈ fieldNames entries := by
  exact symbolField_named ((ensureKind_ok_iff reads).mp checked)

/-- An accepted command has every field of its kind, and so have its pattern and steps. -/
structure Complete (kind : WatchCommandKind) (command : Expr) : Prop where
  whole : Covers (fields kind) command.entries
  pattern : kind = .haptic → Covers patternFields (pattern command).entries
  steps : kind = .haptic → ∀ step ∈ steps command, Covers stepFields step.entries

private theorem Complete.of_plain {kind : WatchCommandKind} {command : Expr} (plain : kind ≠ .haptic)
    (whole : Covers (fields kind) command.entries) : Complete kind command :=
  ⟨whole, fun haptic => absurd haptic plain, fun haptic => absurd haptic plain⟩

variable {command : Expr} (kind : some "kind" ∈ fieldNames command.entries)
  (named : some "command" ∈ fieldNames command.entries)

private theorem covers_cons {known : List String} {field : String} {entries : List (Expr × Expr)}
    (here : some field ∈ fieldNames entries) (later : ∀ other ∈ known, some other ∈ fieldNames entries) :
    ∀ other ∈ field :: known, some other ∈ fieldNames entries := List.forall_mem_cons.mpr ⟨here, later⟩

include requires in
private theorem validateStep_covers {step : Expr} (valid : validateStep access step = .ok ()) : Covers stepFields step.entries := by
  simp only [validateStep, Except.bind_eq_ok] at valid
  obtain ⟨_, checked, _, onMs, _, offMs, _⟩ := valid
  refine ⟨ensureNoExtra_named checked, ?_⟩
  exact covers_cons (present_requiredU64 requires onMs) (covers_cons (present_requiredU64 requires offMs)
    (List.forall_mem_nil _))

include requires kind named in
private theorem validateNotify_complete (valid : validateNotify access command = .ok ()) : Complete .notify command := by
  simp only [validateNotify, Except.bind_eq_ok] at valid
  obtain ⟨_, checked, _, title, _, lines, _, _, _, urgency, _⟩ := valid
  refine Complete.of_plain (by decide) ⟨ensureNoExtra_named checked, ?_⟩
  have listed : some "lines" ∈ fieldNames command.entries := mem_fieldNames.mpr ⟨_, requiredList_ok requires lines⟩
  exact covers_cons kind (covers_cons named (covers_cons (present_requiredStr requires title) (covers_cons listed
    (covers_cons (present_requiredSym requires urgency) (List.forall_mem_nil _)))))

include requires kind named in
private theorem validateSetFaceSlot_complete (valid : validateSetFaceSlot access command = .ok ()) :
    Complete .setFaceSlot command := by
  simp only [validateSetFaceSlot, Except.bind_eq_ok] at valid
  obtain ⟨_, checked, _, slot, _, value, _⟩ := valid
  refine Complete.of_plain (by decide) ⟨ensureNoExtra_named checked, ?_⟩
  exact covers_cons kind (covers_cons named (covers_cons (present_requiredStr requires slot)
    (covers_cons (present_required requires value) (List.forall_mem_nil _))))

include requires kind named in
private theorem validateSetAlarm_complete (valid : validateSetAlarm access command = .ok ()) : Complete .setAlarm command := by
  simp only [validateSetAlarm, Except.bind_eq_ok] at valid
  obtain ⟨_, checked, _, id, _, atMs, _, label, _⟩ := valid
  refine Complete.of_plain (by decide) ⟨ensureNoExtra_named checked, ?_⟩
  exact covers_cons kind (covers_cons named (covers_cons (present_requiredStr requires id)
    (covers_cons (present_requiredU64 requires atMs) (covers_cons (present_requiredStr requires label)
      (List.forall_mem_nil _)))))

include requires kind named in
private theorem validatePrivacy_complete (valid : validatePrivacy access command = .ok ()) : Complete .privacyMode command := by
  simp only [validatePrivacy, Except.bind_eq_ok] at valid
  obtain ⟨_, checked, _, enabled, _, windowMs, _⟩ := valid
  refine Complete.of_plain (by decide) ⟨ensureNoExtra_named checked, ?_⟩
  exact covers_cons kind (covers_cons named (covers_cons (present_requiredBool requires enabled)
    (covers_cons (present_requiredU64 requires windowMs) (List.forall_mem_nil _))))

include reads requires kind named in
private theorem validateHaptic_complete (valid : validateHaptic access command = .ok ()) : Complete .haptic command := by
  simp only [validateHaptic, Except.bind_eq_ok, Except.forM_eq_ok] at valid
  obtain ⟨_, checked, found, read, _, ofKind, _, patternChecked, _, id, _, meaning, items, listed, _, _, _, validSteps,
    _, repeats, _⟩ := valid
  obtain ⟨entries, rfl, first⟩ := requires.required.mp (Except.mapError_eq_ok.mp read)
  have patternFound : pattern (.map entries) = found := by rw [pattern, Expr.entries, first, Option.getD_some]
  have stepsListed : firstField found.entries "steps" = some (.list items) := requiredList_ok requires listed
  have stepsFound : steps (.map entries) = items := by rw [steps, patternFound, stepsListed]
  obtain ⟨inner, rfl, _⟩ := requires.requiredSym.mp (Except.mapError_eq_ok.mp id)
  refine ⟨⟨ensureNoExtra_named checked, ?_⟩, fun _ => ?_, fun _ step member => ?_⟩
  · exact covers_cons kind (covers_cons named (covers_cons (mem_fieldNames.mpr ⟨_, first⟩) (List.forall_mem_nil _)))
  · rw [patternFound]
    refine ⟨ensureNoExtra_named patternChecked, ?_⟩
    exact covers_cons (present_kind reads ofKind) (covers_cons (present_requiredSym requires id)
      (covers_cons (mem_fieldNames.mpr ⟨_, stepsListed⟩) (covers_cons (present_requiredSym requires meaning)
        (covers_cons (present_requiredU64 requires repeats) (List.forall_mem_nil _)))))
  · rw [stepsFound] at member
    exact validateStep_covers requires (validSteps step member)

include reads requires in
private theorem accepted_complete {route : WatchRouteKind} {packet : WatchCommandPacket}
    (accepted : encodeWatchCommand access route command = .ok packet) :
    Complete packet.command command ∧ namedKind command = some packet.command ∧ packet.payload = command := by
  simp only [encodeWatchCommand, Except.bind_eq_ok] at accepted
  obtain ⟨_, ofKind, symbol, read, found, known, validated⟩ := accepted
  have named := present_requiredSym requires read
  obtain ⟨entries, rfl, first⟩ := requires.requiredSym.mp (Except.mapError_eq_ok.mp read)
  have names : namedKind (.map entries) = some found := by
    simp only [namedKind, Expr.entries, first, Option.bind_some, Expr.asSymbol, known, Except.toOption]
  have kind : some "kind" ∈ fieldNames (Expr.map entries).entries := present_kind reads ofKind
  cases found
  all_goals
    obtain ⟨_, valid, made⟩ := Except.bind_eq_ok.mp validated
    cases made
    refine ⟨?_, names, rfl⟩
  case notify => exact validateNotify_complete requires kind named valid
  case haptic => exact validateHaptic_complete reads requires kind named valid
  case setFaceSlot => exact validateSetFaceSlot_complete requires kind named valid
  case setAlarm => exact validateSetAlarm_complete requires kind named valid
  case privacyMode => exact validatePrivacy_complete requires kind named valid

end Accepted

theorem fields_nodup (kind : WatchCommandKind) : (fields kind).Nodup := by cases kind <;> decide

/-- An accepted command reads alike from both ends exactly when it has no surplus entries. -/
theorem forwarded_alike_iff {access : Access} (reads : access.ReadsSymbols) (requires : access.Requires)
    {route : WatchRouteKind} {command : Expr} {packet : WatchCommandPacket}
    (accepted : encodeWatchCommand access route command = .ok packet) :
    Unambiguous packet ↔ NoSurplus command := by
  obtain ⟨complete, names, payload⟩ := accepted_complete reads requires accepted
  have whole := Covers.readsAlike_iff complete.whole (fields_nodup packet.command)
  have pattern (haptic : packet.command = .haptic) :=
    Covers.readsAlike_iff (complete.pattern haptic) (by decide : patternFields.Nodup)
  have steps (haptic : packet.command = .haptic) (step : Expr) (member : step ∈ steps command) :=
    Covers.readsAlike_iff (complete.steps haptic step member) (by decide : stepFields.Nodup)
  constructor
  · intro ⟨wholeAlike, patternAlike, stepsAlike⟩
    rw [payload] at wholeAlike patternAlike stepsAlike
    have sameKind {kind : WatchCommandKind} (named : namedKind command = some kind) : packet.command = kind :=
      Option.some.inj (names.symm.trans named)
    refine ⟨fun kind named => ?_, fun haptic => ?_, fun haptic step member => ?_⟩
    · obtain rfl := sameKind named
      exact whole.mp wholeAlike
    · exact (pattern (sameKind haptic)).mp (patternAlike (sameKind haptic))
    · exact (steps (sameKind haptic) step member).mp (stepsAlike (sameKind haptic) step member)
  · intro ⟨wholeFew, patternFew, stepsFew⟩
    refine ⟨?_, fun haptic => ?_, fun haptic => ?_⟩
    all_goals rw [payload]
    · exact whole.mpr (wholeFew _ names)
    · exact (pattern haptic).mpr (patternFew (names.trans (congrArg some haptic)))
    · exact fun step member => (steps haptic step member).mpr (stepsFew (names.trans (congrArg some haptic)) step member)

/-- A privacy command, with `more` entries after its own. -/
def privacyCommand (more : List (Expr × Expr)) : Expr :=
  .map ([(.symbol (.new "kind"), .symbol (.qualified "view-wrist" "command")),
    (.symbol (.new "command"), .symbol (.qualified "watch/command" "privacy-mode")),
    (.symbol (.new "enabled"), .bool true),
    (.symbol (.new "window-ms"), .number ⟨.new "u64", "60000"⟩)] ++ more)

theorem privacyCommand_unambiguous :
    encodeWatchCommand plainAccess .ble (privacyCommand []) = .ok ⟨.ble, .privacyMode, privacyCommand []⟩ ∧
      (Unambiguous ⟨.ble, .privacyMode, privacyCommand []⟩ ↔ NoSurplus (privacyCommand [])) := by
  have accepted : encodeWatchCommand plainAccess .ble (privacyCommand []) = .ok ⟨.ble, .privacyMode, privacyCommand []⟩ :=
    rfl
  exact ⟨accepted, forwarded_alike_iff plainAccess_reads plainAccess_lawful accepted⟩

/-- A second `enabled` entry, under a string key and of no validated type, is forwarded. -/
theorem repeated_enabled_forwarded : ¬ ∀ (access : Access), access.ReadsSymbols → access.Requires →
    ∀ (route : WatchRouteKind) (command : Expr) (packet : WatchCommandPacket),
      encodeWatchCommand access route command = .ok packet → Unambiguous packet := by
  intro always
  have accepted : encodeWatchCommand plainAccess .ble (privacyCommand [(.string "enabled", .bool false)]) =
      .ok ⟨.ble, .privacyMode, privacyCommand [(.string "enabled", .bool false)]⟩ := rfl
  have whole := (always plainAccess plainAccess_reads plainAccess_lawful _ _ _ accepted).whole
  have once := whole.once "enabled" (by decide)
  revert once
  decide

end StreamHost.Proofs.CommandReaders
