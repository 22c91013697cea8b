import Mathlib.Algebra.Order.Ring.Nat
import Mathlib.Data.List.DropRight
import Mathlib.Data.List.Infix
import StreamHost.Lib.WhiteSpace

/-! Texts as lists of characters: their lines, trimming, splitting, and how often a word occurs. -/

namespace Text

/-- The line without the carriage return of its line break. -/
def dropReturn (line : List Char) : List Char := if line.getLast? = some '\r' then line.dropLast else line

/-- The lines of a text whose first line starts with `current`. The last line need not be broken. -/
def linesFrom (current : List Char) : List Char → List (List Char)
  | [] => if current.isEmpty then [] else [current]
  | glyph :: rest =>
    if glyph = '\n' then dropReturn current :: linesFrom [] rest else linesFrom (current ++ [glyph]) rest

def lines (text : List Char) : List (List Char) := linesFrom [] text

def trim (text : List Char) : List Char :=
  (text.dropWhile Char.isUnicodeWhiteSpace).rdropWhile Char.isUnicodeWhiteSpace

/-- ASCII letters only. -/
def lower (text : List Char) : List Char := text.map Char.toLower

def occurrences (word text : List Char) : Nat := text.tails.countP word.isPrefixOf

def contains (word text : List Char) : Bool := text.tails.any word.isPrefixOf

theorem dropReturn_same {α : Sort*} (read : List Char → α) (back : ∀ text, read (text ++ ['\r']) = read text)
    (line : List Char) : read (dropReturn line) = read line := by
  unfold dropReturn
  split
  · rename_i last
    rw [← back, List.dropLast_append_getLast? '\r' last]
  · rfl

section Trim

theorem trim_cons {glyph : Char} (white : glyph.isUnicodeWhiteSpace = true) (text : List Char) :
    trim (glyph :: text) = trim text := by
  rw [trim, List.dropWhile_cons_of_pos white, trim]

theorem trim_concat {glyph : Char} (white : glyph.isUnicodeWhiteSpace = true) (text : List Char) :
    trim (text ++ [glyph]) = trim text := by
  rw [trim, trim, List.dropWhile_append]
  split
  · rename_i blank
    rw [List.isEmpty_iff.mp blank, List.dropWhile_cons_of_pos white]
    rfl
  · exact List.rdropWhile_concat_pos _ _ _ white

/-- What white space at either end does not change, trimming does not. -/
theorem trim_same {α : Sort*} (read : List Char → α)
    (front : ∀ glyph text, glyph.isUnicodeWhiteSpace = true → read (glyph :: text) = read text)
    (back : ∀ glyph text, glyph.isUnicodeWhiteSpace = true → read (text ++ [glyph]) = read text) (text : List Char) :
    read (trim text) = read text := by
  have right (text : List Char) : read (text.rdropWhile Char.isUnicodeWhiteSpace) = read text := by
    induction text using List.reverseRecOn with
    | nil => rfl
    | append_singleton rest glyph ih =>
      by_cases white : glyph.isUnicodeWhiteSpace = true
      · rw [List.rdropWhile_concat_pos _ _ _ white, ih, back glyph rest white]
      · rw [List.rdropWhile_concat_neg _ _ _ white]
  have left (text : List Char) : read (text.dropWhile Char.isUnicodeWhiteSpace) = read text := by
    induction text with
    | nil => rfl
    | cons glyph rest ih =>
      by_cases white : glyph.isUnicodeWhiteSpace = true
      · rw [List.dropWhile_cons_of_pos white, ih, front glyph rest white]
      · rw [List.dropWhile_cons_of_neg white]
  exact (right _).trans (left text)

@[simp]
theorem trim_trim (text : List Char) : trim (trim text) = trim text :=
  trim_same trim (fun _ text white => trim_cons white text) (fun _ text white => trim_concat white text) text

@[simp]
theorem trim_dropReturn (line : List Char) : trim (dropReturn line) = trim line :=
  dropReturn_same trim (fun text => trim_concat (by decide) text) line

theorem mem_trim {glyph : Char} (visible : ¬ glyph.isUnicodeWhiteSpace = true) (text : List Char) :
    glyph ∈ trim text ↔ glyph ∈ text := by
  refine iff_of_eq (trim_same (glyph ∈ ·) (fun other text white => ?_) (fun other text white => ?_) text)
  all_goals
    have apart : glyph ≠ other := fun same => visible (same ▸ white)
    simp [apart]

/-- A text that starts and ends visibly is the start of what is left of a longer one. -/
theorem prefix_trim {first last : Char} {middle : List Char} (front : first.isUnicodeWhiteSpace = false)
    (back : last.isUnicodeWhiteSpace = false) (more : List Char) :
    first :: (middle ++ [last]) <+: trim (first :: (middle ++ [last]) ++ more) := by
  induction more using List.reverseRecOn with
  | nil =>
    rw [List.append_nil, trim, List.dropWhile_cons_of_neg (by simp [front]), ← List.cons_append,
      List.rdropWhile_concat_neg _ _ _ (by simp [back])]
  | append_singleton rest glyph ih =>
    rw [← List.append_assoc]
    by_cases white : glyph.isUnicodeWhiteSpace = true
    · rwa [trim_concat white]
    · rw [trim, List.cons_append, List.cons_append, List.dropWhile_cons_of_neg (by simp [front]), ← List.cons_append,
        ← List.cons_append, List.rdropWhile_concat_neg _ _ _ white]
      exact ⟨rest ++ [glyph], by simp⟩

end Trim

section Lower

/-- Lowering makes small letters only. -/
theorem toLower_eq {glyph other : Char} (notSmall : ¬ (97 ≤ other.toNat ∧ other.toNat ≤ 122))
    (lowered : glyph.toLower = other) : glyph = other := by
  unfold Char.toLower at lowered
  split at lowered
  · rename_i upper
    subst lowered
    have low : 65 ≤ glyph.toNat := UInt32.le_iff_toNat_le.mp upper.1
    have high : glyph.toNat ≤ 90 := UInt32.le_iff_toNat_le.mp upper.2
    have small : glyph.toNat + 32 < 2 ^ 32 := by omega
    exfalso
    apply notSmall
    change 97 ≤ (glyph.val + 32).toNat ∧ (glyph.val + 32).toNat ≤ 122
    rw [UInt32.toNat_add]
    change 97 ≤ (glyph.toNat + 32) % 2 ^ 32 ∧ (glyph.toNat + 32) % 2 ^ 32 ≤ 122
    rw [Nat.mod_eq_of_lt small]
    omega
  · exact lowered

theorem mem_lower {glyph : Char} (notSmall : ¬ (97 ≤ glyph.toNat ∧ glyph.toNat ≤ 122)) {text : List Char}
    (listed : glyph ∈ lower text) : glyph ∈ text := by
  obtain ⟨other, member, lowered⟩ := List.mem_map.mp listed
  exact toLower_eq notSmall lowered ▸ member

theorem toLower_white {glyph : Char} (white : glyph.isUnicodeWhiteSpace = true) : glyph.toLower = glyph := by
  unfold Char.toLower
  split
  · rename_i upper
    have low : 65 ≤ glyph.toNat := UInt32.le_iff_toNat_le.mp upper.1
    have high : glyph.toNat ≤ 90 := UInt32.le_iff_toNat_le.mp upper.2
    exfalso
    simp [Char.isUnicodeWhiteSpace] at white
    omega
  · rfl

end Lower

section Occurrences
variable {word : List Char}

theorem contains_iff {text : List Char} : contains word text = true ↔ 0 < occurrences word text := by
  rw [contains, List.any_eq_true, occurrences, List.countP_pos_iff]

theorem occurrences_nil (some : word ≠ []) : occurrences word [] = 0 := by
  cases word with
  | nil => exact absurd rfl some
  | cons glyph rest => rfl

theorem occurrences_cons (glyph : Char) (text : List Char) :
    occurrences word (glyph :: text) = occurrences word text + if word.isPrefixOf (glyph :: text) then 1 else 0 := by
  rw [occurrences, List.tails_cons, List.countP_cons, ← occurrences]

/-- A word does not reach past a character that is not its own. -/
theorem isPrefixOf_append_foreign {foreign : Char} (absent : foreign ∉ word) (first last : List Char) :
    word.isPrefixOf (first ++ foreign :: last) = word.isPrefixOf first := by
  induction word generalizing first with
  | nil => rfl
  | cons head rest ih =>
    obtain ⟨other, absent⟩ := not_or.mp (List.mem_cons.not.mp absent)
    cases first with
    | nil => simp [List.isPrefixOf, Ne.symm other]
    | cons glyph first => simp [List.isPrefixOf, ih absent first]

theorem occurrences_append_foreign {foreign : Char} (some : word ≠ []) (absent : foreign ∉ word) (first last : List Char) :
    occurrences word (first ++ foreign :: last) = occurrences word first + occurrences word last := by
  induction first with
  | nil =>
    have none : word.isPrefixOf (foreign :: last) = word.isPrefixOf [] := isPrefixOf_append_foreign absent [] last
    have empty : word.isPrefixOf [] = false := by cases word with
      | nil => exact absurd rfl some
      | cons glyph rest => rfl
    rw [List.nil_append, occurrences_cons, occurrences_nil some, none, empty, Nat.zero_add]
    rfl
  | cons glyph rest ih =>
    have here : word.isPrefixOf (glyph :: (rest ++ foreign :: last)) = word.isPrefixOf (glyph :: rest) :=
      isPrefixOf_append_foreign absent (glyph :: rest) last
    rw [List.cons_append, occurrences_cons, occurrences_cons, here, ih]
    omega

theorem occurrences_cons_foreign {foreign : Char} (some : word ≠ []) (absent : foreign ∉ word) (text : List Char) :
    occurrences word (foreign :: text) = occurrences word text := by
  have split := occurrences_append_foreign some absent [] text
  rwa [occurrences_nil some, Nat.zero_add] at split

theorem occurrences_concat_foreign {foreign : Char} (some : word ≠ []) (absent : foreign ∉ word) (text : List Char) :
    occurrences word (text ++ [foreign]) = occurrences word text := by
  have split := occurrences_append_foreign some absent text []
  rwa [occurrences_nil some, Nat.add_zero] at split

/-- Words without white space are as often in a line as in the trimmed line. -/
theorem occurrences_trim (some : word ≠ []) (visible : ∀ glyph ∈ word, ¬ glyph.isUnicodeWhiteSpace = true)
    (text : List Char) :
    occurrences word (trim text) = occurrences word text :=
  trim_same (occurrences word)
    (fun _ text white => occurrences_cons_foreign some (fun member => visible _ member white) text)
    (fun _ text white => occurrences_concat_foreign some (fun member => visible _ member white) text) text

theorem occurrences_linesFrom (some : word ≠ []) (visible : ∀ glyph ∈ word, ¬ glyph.isUnicodeWhiteSpace = true)
    (current text : List Char) : ((linesFrom current text).map (occurrences word)).sum = occurrences word (current ++ text) := by
  have foreign {glyph : Char} (white : glyph.isUnicodeWhiteSpace = true) : glyph ∉ word :=
    fun member => visible glyph member white
  induction text generalizing current with
  | nil =>
    rw [linesFrom, List.append_nil]
    split
    · rename_i empty
      rw [List.isEmpty_iff.mp empty, occurrences_nil some]
      rfl
    · exact Nat.add_zero _
  | cons glyph rest ih =>
    rw [linesFrom]
    split
    · rename_i broken
      have line : occurrences word (dropReturn current) = occurrences word current :=
        dropReturn_same _ (occurrences_concat_foreign some (foreign (by decide))) current
      rw [List.map_cons, List.sum_cons, ih, line, List.nil_append, broken,
        occurrences_append_foreign some (foreign (by decide))]
    · rw [ih, List.append_assoc, List.singleton_append]

/-- Words without white space are counted line by line. -/
theorem occurrences_lines (some : word ≠ []) (visible : ∀ glyph ∈ word, ¬ glyph.isUnicodeWhiteSpace = true)
    (text : List Char) :
    ((lines text).map (occurrences word)).sum = occurrences word text := occurrences_linesFrom some visible [] text

end Occurrences

section Terminated

theorem linesFrom_append {line : List Char} (whole : '\n' ∉ line) (current rest : List Char) :
    linesFrom current (line ++ '\n' :: rest) = dropReturn (current ++ line) :: lines rest := by
  induction line generalizing current with
  | nil => rw [List.nil_append, linesFrom, if_pos rfl, List.append_nil, lines]
  | cons glyph line ih =>
    obtain ⟨other, whole⟩ := not_or.mp (List.mem_cons.not.mp whole)
    rw [List.cons_append, linesFrom, if_neg (Ne.symm other), ih whole, List.append_assoc, List.singleton_append]

theorem lines_terminated {rows : List (List Char)} (whole : ∀ row ∈ rows, '\n' ∉ row) :
    lines (rows.flatMap fun row => row ++ ['\n']) = rows.map dropReturn := by
  induction rows with
  | nil => rfl
  | cons row rest ih =>
    obtain ⟨here, later⟩ := List.forall_mem_cons.mp whole
    rw [List.flatMap_cons, List.append_assoc, List.singleton_append, lines, linesFrom_append here, ih later]
    rfl

end Terminated

section Split
variable {α : Type*} {p : α → Bool}

/-- An item that does not split joins the last piece. -/
theorem splitOnP_concat {item : α} (whole : p item = false) (items : List α) :
    ∃ front back, items.splitOnP p = front ++ [back] ∧ (items ++ [item]).splitOnP p = front ++ [back ++ [item]] := by
  induction items with
  | nil => exact ⟨[], [], rfl, by simp [List.splitOnP_cons_eq_if_modifyHead, whole]⟩
  | cons first rest ih =>
    obtain ⟨front, back, short, long⟩ := ih
    rw [List.cons_append, List.splitOnP_cons_eq_if_modifyHead, List.splitOnP_cons_eq_if_modifyHead, short, long]
    split
    · exact ⟨[] :: front, back, rfl, rfl⟩
    · cases front with
      | nil => exact ⟨[], first :: back, rfl, rfl⟩
      | cons piece front => exact ⟨(first :: piece) :: front, back, rfl, rfl⟩

variable {separator : α} {pieces : List (List α)}

theorem splitOnP_intercalate (splits : p separator = true) (whole : ∀ piece ∈ pieces, ∀ item ∈ piece, p item = false)
    (some : pieces ≠ []) : ([separator].intercalate pieces).splitOnP p = pieces := by
  induction pieces with
  | nil => exact absurd rfl some
  | cons piece rest ih =>
    obtain ⟨here, later⟩ := List.forall_mem_cons.mp whole
    cases rest with
    | nil => rw [List.intercalate_singleton, List.splitOnP_eq_singleton here]
    | cons next rest =>
      rw [List.intercalate_cons_cons, List.append_assoc, List.singleton_append,
        List.splitOnP_append_cons_of_forall_mem here separator splits, ih later (List.cons_ne_nil _ _)]

/-- Pieces that each end in the separator leave an empty one behind the last. -/
theorem splitOnP_terminated (splits : p separator = true) (whole : ∀ piece ∈ pieces, ∀ item ∈ piece, p item = false) :
    (pieces.flatMap (· ++ [separator])).splitOnP p = pieces ++ [[]] := by
  induction pieces with
  | nil => exact List.splitOnP_nil
  | cons piece rest ih =>
    obtain ⟨here, later⟩ := List.forall_mem_cons.mp whole
    rw [List.flatMap_cons, List.append_assoc, List.singleton_append,
      List.splitOnP_append_cons_of_forall_mem here separator splits, ih later, List.cons_append]

theorem mem_intercalate {item : α} (member : item ∈ [separator].intercalate pieces) :
    item = separator ∨ ∃ piece ∈ pieces, item ∈ piece := by
  induction pieces with
  | nil => cases member
  | cons piece rest ih =>
    cases rest with
    | nil =>
      rw [List.intercalate_singleton] at member
      exact .inr ⟨piece, List.mem_cons_self, member⟩
    | cons next rest =>
      rw [List.intercalate_cons_cons, List.mem_append, List.mem_append, List.mem_singleton] at member
      rcases member with (first | here) | later
      · exact .inr ⟨piece, List.mem_cons_self, first⟩
      · exact .inl here
      · obtain here | ⟨other, listed, found⟩ := ih later
        · exact .inl here
        · exact .inr ⟨other, List.mem_cons_of_mem _ listed, found⟩

theorem separator_mem (several : 2 ≤ pieces.length) : separator ∈ [separator].intercalate pieces := by
  match pieces, several with
  | first :: next :: rest, _ =>
    rw [List.intercalate_cons_cons]
    exact List.mem_append_left _ (List.mem_append_right _ List.mem_cons_self)

end Split

end Text
