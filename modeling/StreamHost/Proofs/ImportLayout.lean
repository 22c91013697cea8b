import Mathlib.Algebra.Order.BigOperators.Group.List
import Mathlib.Algebra.Order.Ring.Nat
import Mathlib.Logic.Relation
import StreamHost.Proofs.ImportEvents

/-! When XML imports count elements. The parsers look at lines, each of which gives one
event at most, whatever number of elements it opens; so the layout of a body decides. -/

namespace StreamHost.Proofs.ImportLayout
open Wristbridge Text

abbrev trackPoint : List Char := "<trkpt".toList

abbrev heartRate : List Char := "<HeartRateBpm".toList

abbrev value : List Char := "<Value>".toList

abbrev routePoint : List Char := "<Trackpoint".toList

/-- The elements of a body that are samples of the sensor. -/
def elements (format : ImportFormat) (sensor : String) (body : List Char) : Nat :=
  match format with
  | .gpx => if sensor = "gps" then occurrences trackPoint body else 0
  | .tcx =>
    if sensor = "heart-rate" then occurrences heartRate body
    else if sensor = "route" then occurrences routePoint body else 0
  | .csv | .fit | .zeppExport => 0

/-- A body gives one event of each sensor for each of its elements. -/
def CountsElements (build : TextBuild) (format : ImportFormat) (body : String) : Prop :=
  ∃ events, ImportSource.events build ⟨format, body⟩ = .ok events ∧
    ∀ sensor, sensorCount sensor events = elements format sensor body.toList

/-- No line has two track points. -/
def OnePointALine (body : String) : Prop := ∀ line ∈ lines body.toList, occurrences trackPoint line ≤ 1

/-- No line has two track points, or one together with a heart rate, and the lines with a value
but no heart rate are as many as the heart rates that share a line with an earlier one. -/
structure OneSampleALine (body : String) : Prop where
  points : ∀ line ∈ lines body.toList, contains routePoint line = true →
    occurrences routePoint line = 1 ∧ contains heartRate line = false ∧ contains value line = false
  rates : (lines body.toList).countP (fun line => contains value line && !contains heartRate line) =
    ((lines body.toList).map fun line => occurrences heartRate line - 1).sum

section Sums
variable {α : Type}

private theorem countP_eq_sum (test : α → Bool) (items : List α) :
    items.countP test = (items.map fun item => if test item then 1 else 0).sum := by
  induction items with
  | nil => rfl
  | cons item rest ih => rw [List.countP_cons, List.map_cons, List.sum_cons, ih, Nat.add_comm]

private theorem sum_eq_iff_of_le {few many : α → Nat} {items : List α} (le : ∀ item ∈ items, few item ≤ many item) :
    (items.map few).sum = (items.map many).sum ↔ ∀ item ∈ items, few item = many item := by
  induction items with
  | nil => exact iff_of_true rfl (List.forall_mem_nil _)
  | cons item rest ih =>
    obtain ⟨here, later⟩ := List.forall_mem_cons.mp le
    have below : (rest.map few).sum ≤ (rest.map many).sum := List.sum_le_sum later
    rw [List.forall_mem_cons, ← ih later, List.map_cons, List.map_cons, List.sum_cons, List.sum_cons]
    omega

end Sums

section Words
variable {word : List Char}

/-- The words looked for are the names of opening tags. -/
structure TagWord (word : List Char) : Prop where
  some : word ≠ []
  visible : ∀ glyph ∈ word, ¬ glyph.isUnicodeWhiteSpace = true

private theorem TagWord.contains_trim (tag : TagWord word) (line : List Char) : contains word (trim line) = contains word line := by
  rw [Bool.eq_iff_iff, contains_iff, contains_iff, occurrences_trim tag.some tag.visible]

private theorem trackPoint_word : TagWord trackPoint := ⟨by decide, by simp [trackPoint, Char.isUnicodeWhiteSpace]⟩

private theorem heartRate_word : TagWord heartRate := ⟨by decide, by simp [heartRate, Char.isUnicodeWhiteSpace]⟩

private theorem value_word : TagWord value := ⟨by decide, by simp [value, Char.isUnicodeWhiteSpace]⟩

private theorem routePoint_word : TagWord routePoint := ⟨by decide, by simp [routePoint, Char.isUnicodeWhiteSpace]⟩

theorem TagWord.total (tag : TagWord word) (body : List Char) : ((lines body).map (occurrences word)).sum = occurrences word body :=
  occurrences_lines tag.some tag.visible body

end Words

section Counts
variable (build : TextBuild) (body : List Char)

private theorem sensorCount_picked (pick : List Char → Option (String × Expr)) (sensor : String) (body : List Char) :
    sensorCount sensor (numbered (((lines body).map trim).filterMap pick)) =
      (lines body).countP fun line => (pick (trim line)).any (·.1 = sensor) := by
  rw [sensorCount_numbered, List.countP_filterMap, List.countP_map]
  apply List.countP_congr
  intro line _
  rw [Function.comp_apply]
  cases pick (trim line) <;> simp

private theorem gpx_count (sensor : String) :
    sensorCount sensor (numbered (((lines body).map trim).filterMap (trackPick build))) =
      if sensor = "gps" then (lines body).countP (contains trackPoint) else 0 := by
  rw [sensorCount_picked]
  split
  · rename_i gps
    apply List.countP_congr
    intro line _
    rw [trackPick, trackPoint_word.contains_trim, gps]
    cases contains trackPoint line <;> simp
  · rename_i other
    apply List.countP_eq_zero.mpr
    intro line _
    rw [trackPick]
    split <;> simp [Ne.symm other]

/-- The test a line has to pass to give an event of the sensor. -/
def trainingTest (sensor : String) (line : List Char) : Bool :=
  if contains heartRate line || contains value line then sensor = "heart-rate"
  else contains routePoint line && sensor = "route"

private theorem tcx_count (sensor : String) :
    sensorCount sensor (numbered (((lines body).map trim).filterMap (trainingPick build))) =
      (lines body).countP (trainingTest sensor) := by
  rw [sensorCount_picked]
  apply List.countP_congr
  intro line _
  rw [trainingPick, trainingTest, heartRate_word.contains_trim, value_word.contains_trim, routePoint_word.contains_trim]
  split
  · simp [eq_comm]
  · cases contains routePoint line <;> simp [eq_comm]

private theorem contains_eq (word line : List Char) : (if contains word line then 1 else 0) = min (occurrences word line) 1 := by
  split
  · rename_i found
    have positive := contains_iff.mp found
    omega
  · rename_i absent
    have none := contains_iff.not.mp absent
    omega

private theorem gpx_parses (body : String) : ∃ events, ImportSource.events build ⟨.gpx, body⟩ = .ok events :=
  ⟨_, parseGpx_eq build body.toList⟩

private theorem tcx_parses (body : String) : ∃ events, ImportSource.events build ⟨.tcx, body⟩ = .ok events :=
  ⟨_, parseTcx_eq build body.toList⟩

private theorem gpx_counts_iff (body : String) : CountsElements build .gpx body ↔ OnePointALine body := by
  have parsed : ImportSource.events build ⟨.gpx, body⟩ = _ := parseGpx_eq build body.toList
  have counted : (lines body.toList).countP (contains trackPoint) = occurrences trackPoint body.toList ↔ OnePointALine body := by
    rw [← trackPoint_word.total, countP_eq_sum, OnePointALine]
    simp only [contains_eq]
    rw [sum_eq_iff_of_le fun line _ => Nat.min_le_left _ _]
    exact forall₂_congr fun line _ => min_eq_left_iff
  rw [← counted, CountsElements, parsed]
  simp only [Except.ok.injEq, exists_eq_left', gpx_count, elements]
  constructor
  · intro counts
    have gps := counts "gps"
    rwa [if_pos rfl, if_pos rfl] at gps
  · intro gps sensor
    rw [gps]

/-- Heart rates and values, counted by lines and by occurrences. -/
theorem rates_counted (lines : List (List Char)) :
    lines.countP (trainingTest "heart-rate") + (lines.map fun line => occurrences heartRate line - 1).sum =
      (lines.map (occurrences heartRate)).sum + lines.countP fun line => contains value line && !contains heartRate line := by
  induction lines with
  | nil => rfl
  | cons line rest ih =>
    have here := contains_eq heartRate line
    simp only [List.countP_cons, List.map_cons, List.sum_cons, trainingTest] at ih ⊢
    cases rate : contains heartRate line
    all_goals
      rw [rate] at here
      cases contains value line
    all_goals
      simp at here ⊢
      omega

private theorem trainingTest_route (line : List Char) : (if trainingTest "route" line then 1 else 0) =
    if contains heartRate line || contains value line then 0 else min (occurrences routePoint line) 1 := by
  rw [trainingTest, ← contains_eq]
  split
  · rfl
  · simp

private theorem route_counted (lines : List (List Char)) :
    lines.countP (trainingTest "route") = (lines.map (occurrences routePoint)).sum ↔
      ∀ line ∈ lines, contains routePoint line = true →
        occurrences routePoint line = 1 ∧ contains heartRate line = false ∧ contains value line = false := by
  rw [countP_eq_sum]
  simp only [trainingTest_route]
  rw [sum_eq_iff_of_le]
  · apply forall₂_congr
    intro line _
    rw [contains_iff]
    split
    · rename_i taken
      refine ⟨fun none positive => ?_, fun alone => ?_⟩
      · omega
      · by_contra some
        obtain ⟨_, noRate, noValue⟩ := alone (by omega)
        rw [noRate, noValue] at taken
        cases taken
    · rename_i free
      rw [Bool.not_eq_true, Bool.or_eq_false_iff] at free
      simp only [free, and_true]
      omega
  · intro line _
    split
    · exact Nat.zero_le _
    · exact Nat.min_le_left _ _

private theorem tcx_counts_iff (body : String) : CountsElements build .tcx body ↔ OneSampleALine body := by
  have parsed : ImportSource.events build ⟨.tcx, body⟩ = _ := parseTcx_eq build body.toList
  have rates := rates_counted (lines body.toList)
  rw [heartRate_word.total] at rates
  have route := route_counted (lines body.toList)
  rw [routePoint_word.total] at route
  rw [CountsElements, parsed]
  simp only [Except.ok.injEq, exists_eq_left', tcx_count, elements]
  constructor
  · intro counts
    have rate := counts "heart-rate"
    have points := counts "route"
    rw [if_pos rfl] at rate
    rw [if_neg (by decide), if_pos rfl] at points
    exact ⟨route.mp points, by omega⟩
  · intro ⟨points, surplus⟩ sensor
    split
    · rename_i rate
      rw [rate]
      omega
    split
    · rename_i point
      rw [point]
      exact route.mpr points
    · rename_i notRate notPoint
      apply List.countP_eq_zero.mpr
      intro line _
      rw [trainingTest]
      split <;> simp [notRate, notPoint]

end Counts

section Layout
variable (build : TextBuild)

def LineBreaks (glyphs : List Char) : Prop := ∀ glyph ∈ glyphs, glyph = '\n' ∨ glyph = '\r'

/-- Between two adjacent tags the line breaks are replaced, by more, fewer or none. -/
def Relaid (first second : List Char) : Prop := ∃ before after breaks others, LineBreaks breaks ∧ LineBreaks others ∧
  first = before ++ '>' :: (breaks ++ '<' :: after) ∧ second = before ++ '>' :: (others ++ '<' :: after)

/-- The second body is the first one in another layout. -/
def SameButLayout (first second : String) : Prop := Relation.ReflTransGen Relaid first.toList second.toList

/-- The body gives an event for each element, and as many of each sensor in every layout. -/
def LayoutFree (build : TextBuild) (format : ImportFormat) (body : String) : Prop :=
  CountsElements build format body ∧ ∀ other, SameButLayout body other → ∀ events others,
    ImportSource.events build ⟨format, body⟩ = .ok events → ImportSource.events build ⟨format, other⟩ = .ok others →
      ∀ sensor, sensorCount sensor others = sensorCount sensor events

private theorem occurrences_breaks {word : List Char} (tag : TagWord word) {breaks : List Char} (broken : LineBreaks breaks)
    (text : List Char) : occurrences word (breaks ++ text) = occurrences word text := by
  induction breaks with
  | nil => rfl
  | cons glyph rest ih =>
    obtain ⟨here, later⟩ := List.forall_mem_cons.mp broken
    have foreign : glyph ∉ word := by
      intro member
      rcases here with rfl | rfl
      · exact tag.visible _ member (by decide)
      · exact tag.visible _ member (by decide)
    rw [List.cons_append, occurrences_cons_foreign tag.some foreign, ih later]

private theorem occurrences_relaid {word : List Char} (tag : TagWord word) (opening : '>' ∉ word) {first second : List Char}
    (relaid : Relaid first second) : occurrences word first = occurrences word second := by
  obtain ⟨before, after, breaks, others, broken, otherBroken, rfl, rfl⟩ := relaid
  rw [occurrences_append_foreign tag.some opening, occurrences_append_foreign tag.some opening,
    occurrences_breaks tag broken, occurrences_breaks tag otherBroken]

private theorem elements_relaid {first second : List Char} (relaid : Relaid first second) (format : ImportFormat) (sensor : String) :
    elements format sensor first = elements format sensor second := by
  unfold elements
  rw [occurrences_relaid trackPoint_word (by decide) relaid, occurrences_relaid heartRate_word (by decide) relaid,
    occurrences_relaid routePoint_word (by decide) relaid]

private theorem elements_layout {first second : String} (same : SameButLayout first second) (format : ImportFormat) (sensor : String) :
    elements format sensor first.toList = elements format sensor second.toList := by
  unfold SameButLayout at same
  generalize second.toList = last at same
  induction same with
  | refl => rfl
  | tail _ relaid ih => exact ih.trans (elements_relaid relaid format sensor)

variable {build} in
private theorem layoutFree_iff {format : ImportFormat} {Single : String → Prop}
    (parses : ∀ body, ∃ events, ImportSource.events build ⟨format, body⟩ = .ok events)
    (counts : ∀ body, CountsElements build format body ↔ Single body) (body : String) :
    LayoutFree build format body ↔ ∀ other, SameButLayout body other → Single other := by
  constructor
  · intro ⟨⟨events, parsed, counted⟩, free⟩ other same
    obtain ⟨others, otherParsed⟩ := parses other
    refine (counts other).mp ⟨others, otherParsed, fun sensor => ?_⟩
    rw [free other same events others parsed otherParsed sensor, counted, elements_layout same]
  · intro single
    refine ⟨(counts body).mpr (single body .refl), ?_⟩
    intro other same events others parsed otherParsed sensor
    obtain ⟨_, found, counted⟩ := (counts body).mpr (single body .refl)
    obtain ⟨_, otherFound, otherCounted⟩ := (counts other).mpr (single other same)
    cases found.symm.trans parsed
    cases otherFound.symm.trans otherParsed
    rw [counted, otherCounted, elements_layout same]

/-- Elements are counted exactly when the lines keep them apart, and in every layout
exactly when the lines of every layout do. -/
theorem elements_counted_iff (body : String) :
    (CountsElements build .gpx body ↔ OnePointALine body) ∧ (CountsElements build .tcx body ↔ OneSampleALine body) ∧
    (LayoutFree build .gpx body ↔ ∀ other, SameButLayout body other → OnePointALine other) ∧
    (LayoutFree build .tcx body ↔ ∀ other, SameButLayout body other → OneSampleALine other) :=
  ⟨gpx_counts_iff build body, tcx_counts_iff build body,
    layoutFree_iff (gpx_parses build) (gpx_counts_iff build) body,
    layoutFree_iff (tcx_parses build) (tcx_counts_iff build) body⟩

/-- A heart rate on lines of its own is counted twice. -/
theorem heart_rate_counted_twice : ¬ ∀ (build : TextBuild) (body : String), CountsElements build .tcx body := by
  intro always
  obtain ⟨events, parsed, counted⟩ := always plainTextBuild "<HeartRateBpm>\n<Value>72</Value>\n</HeartRateBpm>\n"
  have twice : events = [wornOf 0 "heart-rate" (.string "<HeartRateBpm>"), wornOf 1 "heart-rate" (.string "<Value>72</Value>")] := by
    cases parsed
    rfl
  have rate := counted "heart-rate"
  rw [twice] at rate
  revert rate
  decide

end Layout

end StreamHost.Proofs.ImportLayout
