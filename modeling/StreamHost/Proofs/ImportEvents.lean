import StreamHost.Wristbridge.Import

/-! What the import loops return: the picked lines in order, numbered from zero. -/

namespace StreamHost.Wristbridge

def sensorSymbol (sensor : String) : Symbol := .qualified "stream/worn-sensor" sensor

def wornOf (index : Nat) (sensor : String) (value : Expr) : WornEvent :=
  ⟨UInt64.ofNat index, sensorSymbol sensor, value, rfl⟩

def numbered (picked : List (String × Expr)) : List WornEvent :=
  picked.mapIdx fun index (sensor, value) => wornOf index sensor value

def sensorCount (sensor : String) (events : List WornEvent) : Nat := events.countP (·.sensor = sensorSymbol sensor)

private theorem numbered_concat (picked : List (String × Expr)) (sensor : String) (value : Expr) :
    numbered (picked ++ [(sensor, value)]) = numbered picked ++ [wornOf picked.length sensor value] := List.mapIdx_concat

private theorem numbered_length (picked : List (String × Expr)) : (numbered picked).length = picked.length := List.length_mapIdx

theorem numbered_injective : Function.Injective numbered := by
  have recovered (picked : List (String × Expr)) :
      (numbered picked).map (fun event => (event.sensor.name, event.value)) = picked := by
    induction picked using List.reverseRecOn with
    | nil => rfl
    | append_singleton rest pair ih =>
      rw [numbered_concat, List.map_append, ih]
      rfl
  exact Function.LeftInverse.injective recovered

private theorem sensorSymbol_injective : Function.Injective sensorSymbol :=
  fun _ _ same => congrArg Symbol.name same

theorem sensorCount_numbered (sensor : String) (picked : List (String × Expr)) :
    sensorCount sensor (numbered picked) = picked.countP (·.1 = sensor) := by
  induction picked using List.reverseRecOn with
  | nil => rfl
  | append_singleton rest pair ih =>
    obtain ⟨name, value⟩ := pair
    have same : (sensorSymbol name = sensorSymbol sensor) = (name = sensor) :=
      propext sensorSymbol_injective.eq_iff
    rw [numbered_concat, sensorCount, List.countP_append, ← sensorCount, ih, List.countP_append, List.countP_singleton,
      List.countP_singleton]
    simp only [wornOf, same]

/-- A sensor name is put in the sensor namespace, so an event is always made. -/
theorem pushEvent_numbered (sensor : String) (value : Expr) (picked : List (String × Expr)) :
    pushEvent sensor value (numbered picked) = .ok (numbered (picked ++ [(sensor, value)])) := by
  have made : WornEvent.fromSensorName (UInt64.ofNat (numbered picked).length) sensor value =
      .ok (wornOf (numbered picked).length sensor value) := by
    rw [WornEvent.fromSensorName, WornEvent.new]
    exact dif_pos rfl
  rw [pushEvent, made, numbered_length, numbered_concat]
  rfl

/-- A loop that pushes at most one event a line returns the picked lines, numbered. -/
theorem foldlM_numbered {step : List WornEvent → List Char → DeviceResult (List WornEvent)}
    {pick : List Char → Option (String × Expr)}
    (steps : ∀ picked line, step (numbered picked) line = .ok (numbered (picked ++ (pick line).toList)))
    (lines : List (List Char)) (picked : List (String × Expr)) :
    lines.foldlM step (numbered picked) = .ok (numbered (picked ++ lines.filterMap pick)) := by
  induction lines generalizing picked with
  | nil => rw [List.filterMap_nil, List.append_nil]; rfl
  | cons line rest ih =>
    rw [List.foldlM_cons, steps]
    refine (ih _).trans ?_
    rw [List.append_assoc]
    cases found : pick line <;> simp [found]

section Picks
variable (build : TextBuild)

def rowPick (line : List Char) : Option (String × Expr) :=
  if isHeader line then none else
  some (((splitRow line)[0]?.map normalizeSensor).getD "motion",
    ((splitRow line)[1]?.map (parseValue build)).getD (build.text (String.ofList line)))

def trackPick (line : List Char) : Option (String × Expr) :=
  if Text.contains "<trkpt".toList line then some ("gps", build.text (String.ofList line)) else none

def trainingPick (line : List Char) : Option (String × Expr) :=
  if Text.contains "<HeartRateBpm".toList line || Text.contains "<Value>".toList line then
    some ("heart-rate", build.text (String.ofList line))
  else if Text.contains "<Trackpoint".toList line then some ("route", build.text (String.ofList line))
  else none

def rowLines (body : List Char) : List (List Char) := ((Text.lines body).map Text.trim).filter (!·.isEmpty)

theorem parseGpx_eq (body : List Char) :
    parseGpx build body = .ok (numbered (((Text.lines body).map Text.trim).filterMap (trackPick build))) := by
  refine foldlM_numbered (fun picked line => ?_) _ []
  rw [importTrackPoint, trackPick]
  split
  · exact pushEvent_numbered _ _ picked
  · rw [Option.toList_none, List.append_nil]

theorem parseTcx_eq (body : List Char) :
    parseTcx build body = .ok (numbered (((Text.lines body).map Text.trim).filterMap (trainingPick build))) := by
  refine foldlM_numbered (fun picked line => ?_) _ []
  rw [importTraining, trainingPick]
  split
  · exact pushEvent_numbered _ _ picked
  split
  · exact pushEvent_numbered _ _ picked
  · rw [Option.toList_none, List.append_nil]

private theorem importRows_eq (lines : List (List Char)) :
    lines.foldlM (importRow build) [] = .ok (numbered (lines.filterMap (rowPick build))) := by
  refine foldlM_numbered (fun picked line => ?_) lines []
  rw [importRow, rowPick]
  split
  · rw [Option.toList_none, List.append_nil]
  · exact pushEvent_numbered _ _ picked

private theorem parseRowExport_eq (format : ImportFormat) (body : List Char) : parseRowExport build format body =
    if format = .zeppExport ∧ (rowLines body).filterMap (rowPick build) = [] then
      .error (.sample "zepp export did not contain worn rows")
    else .ok (numbered ((rowLines body).filterMap (rowPick build))) := by
  have empty : numbered ((rowLines body).filterMap (rowPick build)) = [] ↔ (rowLines body).filterMap (rowPick build) = [] := by
    rw [← List.length_eq_zero_iff, numbered_length, List.length_eq_zero_iff]
  rw [parseRowExport, ← rowLines, importRows_eq]
  change (Except.rejectIf _ _ >>= fun _ => _) = _
  unfold Except.rejectIf
  simp only [empty]
  split
  · rfl
  · rfl

def rowPicks (body : String) : List (String × Expr) := (rowLines body.toList).filterMap (rowPick build)

/-- The formats that are read row by row. -/
def rowFormats : List ImportFormat := [.csv, .fit, .zeppExport]

theorem rowEvents_eq {format : ImportFormat} (rows : format ∈ rowFormats) (body : String) :
    ImportSource.events build ⟨format, body⟩ = if format = .zeppExport ∧ rowPicks build body = [] then
      .error (.sample "zepp export did not contain worn rows")
    else .ok (numbered (rowPicks build body)) := by
  rw [rowPicks, ← parseRowExport_eq]
  simp only [rowFormats, List.mem_cons, List.not_mem_nil, or_false] at rows
  rcases rows with rfl | rfl | rfl
  all_goals rfl

end Picks

end StreamHost.Wristbridge
