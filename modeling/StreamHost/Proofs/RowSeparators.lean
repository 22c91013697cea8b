import StreamHost.Proofs.ImportEvents

/-! Row imports and the separator a table is written with. Rows are split at three
separators, while headers are looked for in rows written with a comma only. -/

namespace StreamHost.Proofs.RowSeparators
open Wristbridge Text

/-- A row with two cells that are not empty. No cell has a separator or a line break. -/
structure TableRow where
  cells : List (List Char)
  plain : ∀ cell ∈ cells, ∀ glyph ∈ cell, isSeparator glyph = false ∧ glyph ≠ '\n'
  wide : 2 ≤ cells.countP (!·.isEmpty)

def separators : List Char := [',', ';', '\t']

def joined (separator : Char) (row : TableRow) : List Char := [separator].intercalate row.cells

def written (separator : Char) (table : List TableRow) : String :=
  String.ofList (table.flatMap fun row => joined separator row ++ ['\n'])

namespace TableRow

/-- The row as the importer gets it. -/
def line (row : TableRow) (separator : Char) : List Char := trim (joined separator row)

def visible (row : TableRow) : List (List Char) := (row.cells.map trim).filter (!·.isEmpty)

/-- Two cells are more than white space. -/
def Filled (row : TableRow) : Prop := 2 ≤ row.visible.length

instance (row : TableRow) : Decidable row.Filled := inferInstanceAs (Decidable (2 ≤ row.visible.length))

/-- The first cell says so, in any case of its letters. -/
def Header (row : TableRow) : Prop := ∃ first ∈ row.cells.head?, lower first ∈ ["sensor".toList, "type".toList]

end TableRow

/-- A table gives the same result with every separator. -/
def SameEvents (build : TextBuild) (format : ImportFormat) (table : List TableRow) : Prop :=
  ∀ first ∈ separators, ∀ second ∈ separators, ImportSource.events build ⟨format, written first table⟩ =
    ImportSource.events build ⟨format, written second table⟩

/-- Header rows give no event. -/
def HeadersSilent (build : TextBuild) (format : ImportFormat) (table : List TableRow) : Prop :=
  ∀ row ∈ table, row.Header → ∀ separator ∈ separators, ∀ events,
    ImportSource.events build ⟨format, written separator [row]⟩ = .ok events → events = []

section Splitting

private theorem isSeparator_iff {glyph : Char} : isSeparator glyph = true ↔ glyph = ',' ∨ glyph = ';' ∨ glyph = '\t' := by
  simp [isSeparator, or_assoc]

theorem separates {separator : Char} (listed : separator ∈ separators) : isSeparator separator = true := by
  apply isSeparator_iff.mpr
  simpa [separators] using listed

private theorem comma_listed : ',' ∈ separators := .head _

private theorem semicolon_listed : ';' ∈ separators := .tail _ (.head _)

private theorem tab_listed : '\t' ∈ separators := .tail _ (.tail _ (.head _))

private theorem separator_visible {glyph : Char} (splits : isSeparator glyph = true) (notTab : glyph ≠ '\t') :
    glyph.isUnicodeWhiteSpace = false := by
  rcases isSeparator_iff.mp splits with rfl | rfl | rfl
  · decide
  · decide
  · exact absurd rfl notTab

/-- White space at the ends of a line does not show in its fields. -/
theorem splitRow_trim (text : List Char) : splitRow (trim text) = splitRow text := by
  refine trim_same splitRow (fun glyph text white => ?_) (fun glyph text white => ?_) text
  · rw [splitRow, splitRow, List.splitOnP_cons_eq_if_modifyHead]
    split
    · rfl
    · cases found : text.splitOnP isSeparator with
      | nil => rfl
      | cons first rest => rw [List.modifyHead_cons, List.map_cons, List.map_cons, trim_cons white]
  · rw [splitRow, splitRow]
    by_cases splits : isSeparator glyph = true
    · rw [List.splitOnP_append_cons text [] splits, List.map_append, List.filter_append]
      exact List.append_nil _
    · obtain ⟨front, back, short, long⟩ := splitOnP_concat (Bool.eq_false_iff.mpr splits) text
      rw [short, long, List.map_append, List.map_append, List.map_singleton, List.map_singleton, trim_concat white]

variable {row : TableRow} {separator : Char} (listed : separator ∈ separators)

theorem TableRow.several (row : TableRow) : 2 ≤ row.cells.length := row.wide.trans List.countP_le_length

include listed in
private theorem splitRow_line : splitRow (row.line separator) = row.visible := by
  have some : row.cells ≠ [] := List.ne_nil_of_length_pos (Nat.lt_of_lt_of_le Nat.zero_lt_two row.several)
  rw [TableRow.line, splitRow_trim, splitRow, joined,
    splitOnP_intercalate (separates listed) (fun cell member glyph found => (row.plain cell member glyph found).1) some]
  rfl

include listed in
private theorem joined_whole : '\n' ∉ joined separator row := by
  intro member
  obtain here | ⟨cell, found, broken⟩ := mem_intercalate member
  · subst here
    revert listed
    decide
  · exact (row.plain cell found _ broken).2 rfl

include listed in
private theorem rowLines_written (table : List TableRow) :
    rowLines (written separator table).toList = (table.map (·.line separator)).filter (!·.isEmpty) := by
  have whole : ∀ text ∈ table.map (joined separator), '\n' ∉ text := by
    intro text member
    obtain ⟨row, _, rfl⟩ := List.mem_map.mp member
    exact joined_whole listed
  rw [rowLines, written, String.toList_ofList, ← List.flatMap_map (joined separator) fun text => text ++ ['\n'],
    lines_terminated whole, List.map_map, List.map_map]
  simp only [Function.comp_def, trim_dropReturn, TableRow.line]

end Splitting

section Headers
variable {row : TableRow}

theorem mem_line {separator : Char} (listed : separator ∈ separators) (notTab : separator ≠ '\t') :
    separator ∈ row.line separator := by
  have visible := separator_visible (separates listed) notTab
  exact (mem_trim (Bool.eq_false_iff.mp visible) _).mpr (separator_mem row.several)

private theorem comma_mem_line : ',' ∈ row.line ',' := mem_line comma_listed (by decide)

private theorem semicolon_mem_line : ';' ∈ row.line ';' := mem_line semicolon_listed (by decide)

private theorem comma_not_mem_line {separator : Char} (other : ',' ≠ separator) : ',' ∉ row.line separator := by
  intro member
  obtain here | ⟨cell, found, inside⟩ := mem_intercalate ((mem_trim (by decide) _).mp member)
  · exact other here
  · exact Bool.false_ne_true ((row.plain cell found ',' inside).1.symm.trans (separates comma_listed))

/-- A header is known by a comma, or it is a single word. -/
theorem header_form {line : List Char} (header : isHeader line = true) :
    ',' ∈ line ∨ ∀ glyph ∈ line, isSeparator glyph = false := by
  have comma {word : List Char} (found : word.isPrefixOf (lower line) = true) (ends : ',' ∈ word) : ',' ∈ line :=
    mem_lower (by decide) ((List.isPrefixOf_iff_prefix.mp found).subset ends)
  simp only [isHeader, Bool.or_eq_true, decide_eq_true_eq] at header
  rcases header with (sensor | type) | word
  · exact .inl (comma sensor (by decide))
  · exact .inl (comma type (by decide))
  · apply Or.inr
    intro glyph member
    have lowered : glyph.toLower ∈ "sensor".toList := word ▸ List.mem_map_of_mem member
    rw [← Bool.not_eq_true]
    intro splits
    rcases isSeparator_iff.mp splits with rfl | rfl | rfl
    all_goals
      revert lowered
      decide

private theorem semicolon_row : isHeader (row.line ';') = false := by
  rw [← Bool.not_eq_true]
  intro header
  rcases header_form header with comma | word
  · exact comma_not_mem_line (by decide) comma
  · exact Bool.false_ne_true ((word ';' semicolon_mem_line).symm.trans (separates semicolon_listed))

private theorem tab_row (filled : row.Filled) : isHeader (row.line '\t') = false := by
  rw [← Bool.not_eq_true]
  intro header
  rcases header_form header with comma | word
  · exact comma_not_mem_line (by decide) comma
  · have single : row.visible.length ≤ 1 := by
      have fields : splitRow (row.line '\t') = row.visible := splitRow_line tab_listed
      rw [← fields, splitRow, List.splitOnP_eq_singleton word]
      exact List.length_filter_le _ _
    unfold TableRow.Filled at filled
    omega

/-- Written with a comma, a header row is passed over. -/
theorem comma_header (header : row.Header) : isHeader (row.line ',') = true := by
  obtain ⟨first, head, named⟩ := header
  obtain ⟨rest, cells⟩ : ∃ rest, row.cells = first :: rest := List.head?_eq_some_iff.mp head
  have start : lower first ++ [','] <+: lower (row.line ',') := by
    cases first with
    | nil => exact absurd named (by decide)
    | cons glyph middle =>
      have visible : glyph.isUnicodeWhiteSpace = false := by
        rw [← Bool.not_eq_true]
        intro white
        rw [lower, List.map_cons, toLower_white white, List.mem_cons, List.mem_singleton] at named
        rcases named with sensor | type
        · exact absurd white (by rw [(List.cons.inj sensor).1]; decide)
        · exact absurd white (by rw [(List.cons.inj type).1]; decide)
      obtain ⟨next, later, rfl⟩ : ∃ next later, rest = next :: later := by
        have several := row.several
        rw [cells] at several
        exact List.exists_cons_of_length_pos (Nat.lt_of_succ_le (Nat.le_of_succ_le_succ several))
      have kept : glyph :: middle ++ [','] <+: row.line ',' := by
        rw [TableRow.line, joined, cells, List.intercalate_cons_cons]
        exact prefix_trim visible (by decide) _
      have lowered : lower (glyph :: middle ++ [',']) <+: lower (row.line ',') := kept.map Char.toLower
      rwa [lower, List.map_append] at lowered
  simp only [List.mem_cons, List.not_mem_nil, or_false] at named
  simp only [isHeader, Bool.or_eq_true]
  rcases named with sensor | type
  · rw [sensor] at start
    exact .inl (.inl (List.isPrefixOf_iff_prefix.mpr start))
  · rw [type] at start
    exact .inl (.inr (List.isPrefixOf_iff_prefix.mpr start))

end Headers

section Rows
variable (build : TextBuild) {row : TableRow}

private theorem filterMap_eq_map_iff {α β : Type} {pick : α → Option β} {make : α → β} {items : List α} :
    items.filterMap pick = items.map make ↔ ∀ item ∈ items, pick item = some (make item) := by
  constructor
  · intro same
    induction items with
    | nil => exact List.forall_mem_nil _
    | cons item rest ih =>
      cases found : pick item with
      | none =>
        -- The rest would have to give one value more than it has items.
        have short := List.length_filterMap_le pick rest
        rw [List.filterMap_cons_none found] at same
        rw [same, List.length_map, List.length_cons] at short
        omega
      | some value =>
        rw [List.filterMap_cons_some found, List.map_cons] at same
        obtain ⟨rfl, later⟩ := List.cons.inj same
        exact List.forall_mem_cons.mpr ⟨found, ih later⟩
  · intro each
    rw [← List.filterMap_eq_map]
    exact List.filterMap_congr each

/-- The event of a row that is not passed over. -/
def entry (separator : Char) (row : TableRow) : String × Expr :=
  ((row.visible[0]?.map normalizeSensor).getD "motion",
    (row.visible[1]?.map (parseValue build)).getD (build.text (String.ofList (row.line separator))))

private theorem rowPick_line {separator : Char} (listed : separator ∈ separators) : rowPick build (row.line separator) =
    if isHeader (row.line separator) then none else some (entry build separator row) := by
  rw [rowPick, splitRow_line listed]
  rfl

private theorem rowPicks_written {separator : Char} (listed : separator ∈ separators) {table : List TableRow}
    (present : ∀ row ∈ table, row.line separator ≠ []) :
    rowPicks build (written separator table) = table.filterMap fun row => rowPick build (row.line separator) := by
  have kept : (table.map (·.line separator)).filter (!·.isEmpty) = table.map (·.line separator) := by
    apply List.filter_eq_self.mpr
    intro line member
    obtain ⟨row, listed, rfl⟩ := List.mem_map.mp member
    simp [present row listed]
  rw [rowPicks, rowLines_written listed, kept, List.filterMap_map]
  rfl

/-- Where the only error is that nothing was picked, equal results are equal picks. -/
theorem events_eq_iff {format : ImportFormat} (rows : format ∈ rowFormats) (first second : Char) (table : List TableRow) :
    ImportSource.events build ⟨format, written first table⟩ = ImportSource.events build ⟨format, written second table⟩ ↔
      rowPicks build (written first table) = rowPicks build (written second table) := by
  rw [rowEvents_eq build rows, rowEvents_eq build rows]
  constructor
  · intro same
    split at same
    · rename_i none
      split at same
      · rename_i other
        rw [none.2, other.2]
      · cases same
    · split at same
      · cases same
      · exact numbered_injective (Except.ok.inj same)
  · intro same
    rw [same]

private theorem filled_line {separator : Char} (listed : separator ∈ separators) (filled : row.Filled) : row.line separator ≠ [] := by
  intro blank
  have none : row.visible = [] := by
    rw [← splitRow_line listed, blank]
    rfl
  rw [TableRow.Filled, none] at filled
  cases filled

private theorem entry_filled (filled : row.Filled) (first second : Char) : entry build first row = entry build second row := by
  obtain ⟨value, found⟩ : ∃ value, row.visible[1]? = some value := ⟨_, List.getElem?_eq_getElem filled⟩
  rw [entry, entry, found]
  rfl

variable {build} in
private theorem entry_apart (apart : Function.Injective build.text) (bare : ¬ row.Filled) :
    entry build ',' row ≠ entry build ';' row := by
  have missing : row.visible[1]? = none := List.getElem?_eq_none (by unfold TableRow.Filled at bare; omega)
  intro same
  rw [entry, entry, missing] at same
  have lines := String.ofList_injective (apart (Prod.mk.inj same).2)
  have comma : ',' ∈ row.line ';' := lines ▸ comma_mem_line
  exact comma_not_mem_line (by decide) comma

end Rows

section Tables
variable {build : TextBuild} {format : ImportFormat}

/-- The rows of a table are filled and no header, not even where a comma separates. -/
def Readable (table : List TableRow) : Prop := ∀ row ∈ table, isHeader (row.line ',') = false ∧ row.Filled

theorem Readable.picks {table : List TableRow} (readable : Readable table) {separator : Char}
    (listed : separator ∈ separators) :
    rowPicks build (written separator table) = table.map (entry build ',') := by
  rw [rowPicks_written build listed fun row member => filled_line listed (readable row member).2]
  apply filterMap_eq_map_iff.mpr
  intro row member
  obtain ⟨comma, filled⟩ := readable row member
  have kept : isHeader (row.line separator) = false := by
    rcases isSeparator_iff.mp (separates listed) with rfl | rfl | rfl
    · exact comma
    · exact semicolon_row
    · exact tab_row filled
  rw [rowPick_line build listed, kept, entry_filled build filled separator ',']
  rfl

/-- With a semicolon each row gives an event, which the row with a comma has to give too. -/
theorem readable_of_same (apart : Function.Injective build.text) {table : List TableRow}
    (same : rowPicks build (written ',' table) = rowPicks build (written ';' table)) : Readable table := by
  have semicolon : rowPicks build (written ';' table) = table.map (entry build ';') := by
    rw [rowPicks_written build semicolon_listed fun row _ => List.ne_nil_of_mem semicolon_mem_line]
    apply filterMap_eq_map_iff.mpr
    intro row _
    rw [rowPick_line build semicolon_listed, semicolon_row]
    rfl
  rw [semicolon, rowPicks_written build comma_listed fun row _ => List.ne_nil_of_mem comma_mem_line,
    filterMap_eq_map_iff] at same
  intro row member
  have picked := same row member
  rw [rowPick_line build comma_listed] at picked
  split at picked
  · cases picked
  · rename_i notHeader
    refine ⟨Bool.eq_false_iff.mpr notHeader, ?_⟩
    by_contra bare
    exact entry_apart apart bare (Option.some.inj picked)

/-- The separator makes no difference exactly for tables whose rows are filled and would
not be taken for headers. -/
theorem separators_agree_iff (apart : Function.Injective build.text) (rows : format ∈ rowFormats) (table : List TableRow) :
    SameEvents build format table ∧ HeadersSilent build format table ↔ Readable table := by
  constructor
  · intro both
    have same := both.1 ',' comma_listed ';' semicolon_listed
    exact readable_of_same apart ((events_eq_iff build rows ',' ';' table).mp same)
  · intro readable
    constructor
    · intro first firstListed second secondListed
      apply (events_eq_iff build rows first second table).mpr
      rw [readable.picks firstListed, readable.picks secondListed]
    · intro row member header
      exact absurd (comma_header header) (Bool.eq_false_iff.mp (readable row member).1)

/-- A heart rate in two cells. -/
def heartRateRow : TableRow where
  cells := ["hr".toList, "72".toList]
  plain := by simp [isSeparator]
  wide := by decide

/-- An interval and a remark, after an empty cell. -/
def pulseRow : TableRow where
  cells := ["rr".toList, [], "812".toList, "at rest".toList]
  plain := by simp [isSeparator]
  wide := by decide

def routeRow : TableRow where
  cells := ["Route".toList, "home".toList]
  plain := by simp [isSeparator]
  wide := by decide

/-- The names of the columns, with the first one a header. -/
def columnRow : TableRow where
  cells := ["sensor".toList, "value".toList]
  plain := by simp [isSeparator]
  wide := by decide

theorem worn_rows_agree : SameEvents plainTextBuild .fit [heartRateRow, pulseRow, routeRow] ∧
    HeadersSilent plainTextBuild .fit [heartRateRow, pulseRow, routeRow] := by
  apply (separators_agree_iff (fun _ _ same => Expr.string.inj same) (by decide) _).mpr
  simp only [Readable, List.forall_mem_cons]
  exact ⟨⟨by decide, by decide⟩, ⟨by decide, by decide⟩, ⟨by decide, by decide⟩, List.forall_mem_nil _⟩

/-- With a semicolon the column names become an event. -/
theorem column_names_imported : ¬ ∀ (build : TextBuild) (format : ImportFormat), Function.Injective build.text →
    format ∈ rowFormats → ∀ table, SameEvents build format table ∧ HeadersSilent build format table := by
  intro always
  obtain ⟨same, _⟩ := always plainTextBuild .csv (fun _ _ same => Expr.string.inj same) (by decide)
    [columnRow, heartRateRow]
  have lengths : (Except.ok 1 : DeviceResult Nat) = .ok 2 :=
    congrArg (Except.map List.length) (same ',' comma_listed ';' semicolon_listed)
  cases lengths

end Tables

end StreamHost.Proofs.RowSeparators
