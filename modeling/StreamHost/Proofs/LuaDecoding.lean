import StreamHost.Lib.NarrowText
import StreamHost.Lib.Text
import StreamHost.Proofs.LuaFrames

/-! Lua frames are read back: a decoder recovers regions, indices and glyphs
from the bytes, because no part of a primitive holds a comma or a line break. -/

namespace StreamHost.Halo
open NarrowText

/-- What a primitive tells the display; the priority stays behind. -/
def LuaCell.content (cell : LuaCell) : LuaRegion × UInt16 × Option Char := (cell.region, cell.index, cell.glyph)

namespace LuaRegion

/-- A primitive up to its first comma. -/
def opening (region : LuaRegion) : List Char := ("sim.set_cell(\"" ++ region.token ++ "\"").toList

def ofOpening (glyphs : List Char) : Option LuaRegion :=
  [title, metricLabel, metricValue, actionLabel, urgency, warrant].find? fun region => region.opening == glyphs

private theorem ofOpening_opening (region : LuaRegion) : ofOpening region.opening = some region := by
  cases region <;> decide

end LuaRegion

/-- A primitive behind its last comma, read as the glyph. -/
def decodeClosing (glyphs : List Char) : Option (Option Char) :=
  if glyphs = ['n', 'i', 'l', ')'] then some none
  else (Decimal.parseDigits glyphs.dropLast).map fun number => some (Char.ofNat number)

def decodeLine (line : List Char) : Option (LuaRegion × UInt16 × Option Char) :=
  match line.splitOnP (· == ',') with
  | [opening, index, closing] => do
    let region ← LuaRegion.ofOpening opening
    let index ← Decimal.parseDigits index
    let glyph ← decodeClosing closing
    return (region, UInt16.ofNat index, glyph)
  | _ => none

/-- Reads a frame line by line. What follows the last line break is dropped. -/
def decodeFrame (frame : ByteArray) : Option (List (LuaRegion × UInt16 × Option Char)) :=
  ((frame.data.toList.map char).splitOnP (· == '\n')).dropLast.mapM decodeLine

/-- A character of one byte that separates neither pieces nor lines. -/
def isPlain (glyph : Char) : Bool := glyph != ',' && glyph != '\n' && glyph.utf8Size == 1

private theorem isPlain_of_isDigit {glyph : Char} (digit : glyph.isDigit = true) : isPlain glyph = true := by
  have comma : glyph ≠ ',' := by
    rintro rfl
    cases digit
  have lineBreak : glyph ≠ '\n' := by
    rintro rfl
    cases digit
  simp [isPlain, comma, lineBreak, Decimal.utf8Size_of_isDigit digit]

private theorem isPlain_digits (number : Nat) : (Nat.toDigits 10 number).all isPlain = true :=
  List.all_eq_true.mpr fun _ member => isPlain_of_isDigit (Decimal.isDigit_toDigits member)

private theorem isPlain_narrow {glyph : Char} (plain : isPlain glyph = true) : glyph.utf8Size = 1 := by
  rw [isPlain, Bool.and_eq_true, beq_iff_eq] at plain
  exact plain.2

private theorem isPlain_comma {glyph : Char} (plain : isPlain glyph = true) : (glyph == ',') = false := by
  rw [isPlain, Bool.and_eq_true, Bool.and_eq_true, bne_iff_ne] at plain
  exact beq_eq_false_iff_ne.mpr plain.1.1

private theorem isPlain_lineBreak {glyph : Char} (plain : isPlain glyph = true) : (glyph == '\n') = false := by
  rw [isPlain, Bool.and_eq_true, Bool.and_eq_true, bne_iff_ne, bne_iff_ne] at plain
  exact beq_eq_false_iff_ne.mpr plain.1.2

private theorem LuaRegion.isPlain_opening (region : LuaRegion) : region.opening.all isPlain = true := by
  cases region <;> decide

namespace LuaCell

def closing (cell : LuaCell) : List Char := cell.glyphText.toList ++ [')']

def pieces (cell : LuaCell) : List (List Char) := [cell.region.opening, Nat.toDigits 10 cell.index.toNat, cell.closing]

def line (cell : LuaCell) : List Char := [','].intercalate cell.pieces

private theorem line_parts (cell : LuaCell) :
    cell.line = cell.region.opening ++ [','] ++ (Nat.toDigits 10 cell.index.toNat ++ [','] ++ cell.closing) := by
  rw [line, pieces, List.intercalate_cons_cons, List.intercalate_cons_cons, List.intercalate_singleton]

private theorem joined_toList (first second third fourth fifth sixth seventh : String) :
    (first ++ second ++ third ++ fourth ++ fifth ++ sixth ++ seventh).toList =
      first.toList ++ second.toList ++ third.toList ++ fourth.toList ++ fifth.toList ++ sixth.toList ++ seventh.toList := by
  simp only [String.toList_append]

theorem primitiveText_toList (cell : LuaCell) : cell.primitiveText.toList = cell.line ++ ['\n'] := by
  have joined := joined_toList "sim.set_cell(\"" cell.region.token "\"," (toString cell.index.toNat) "," cell.glyphText ")\n"
  have quote : "\",".toList = "\"".toList ++ [','] := by decide
  have bracket : ")\n".toList = [')'] ++ ['\n'] := by decide
  have comma : ",".toList = [','] := by decide
  have parts : cell.line ++ ['\n'] = "sim.set_cell(\"".toList ++ cell.region.token.toList ++ ("\"".toList ++ [',']) ++
      Nat.toDigits 10 cell.index.toNat ++ [','] ++ cell.glyphText.toList ++ ([')'] ++ ['\n']) := by
    simp only [line_parts, LuaRegion.opening, closing, String.toList_append, List.append_assoc]
  rw [quote, bracket, comma, Decimal.toList_toString, ← parts] at joined
  exact joined

private theorem glyphText_some {cell : LuaCell} {glyph : Char} (shown : cell.glyph = some glyph) :
    cell.glyphText.toList = Nat.toDigits 10 glyph.toNat := by
  rw [glyphText, shown]
  exact Decimal.toList_toString glyph.toNat

private theorem glyphText_none {cell : LuaCell} (cleared : cell.glyph = none) : cell.glyphText = "nil" := by
  rw [glyphText, cleared]

private theorem isPlain_closing (cell : LuaCell) : cell.closing.all isPlain = true := by
  rw [closing, List.all_append, Bool.and_eq_true]
  refine ⟨?_, by decide⟩
  cases shown : cell.glyph with
  | none => rw [glyphText_none shown]; decide
  | some glyph => rw [glyphText_some shown]; exact isPlain_digits glyph.toNat

private theorem isPlain_pieces (cell : LuaCell) {piece : List Char} (listed : piece ∈ cell.pieces) {glyph : Char}
    (member : glyph ∈ piece) : isPlain glyph = true := by
  have plain : piece.all isPlain = true := by
    rw [pieces, List.mem_cons, List.mem_cons, List.mem_singleton] at listed
    rcases listed with rfl | rfl | rfl
    · exact cell.region.isPlain_opening
    · exact isPlain_digits cell.index.toNat
    · exact cell.isPlain_closing
  exact List.all_eq_true.mp plain glyph member

/-- A line holds plain characters and its own commas. -/
theorem mem_line (cell : LuaCell) {glyph : Char} (member : glyph ∈ cell.line) :
    glyph = ',' ∨ isPlain glyph = true := by
  obtain comma | ⟨piece, listed, inside⟩ := Text.mem_intercalate member
  · exact .inl comma
  · exact .inr (cell.isPlain_pieces listed inside)

private theorem line_whole (cell : LuaCell) {glyph : Char} (member : glyph ∈ cell.line) : (glyph == '\n') = false := by
  obtain rfl | plain := cell.mem_line member
  · rfl
  · exact isPlain_lineBreak plain

theorem primitive_narrow (cell : LuaCell) : Narrow cell.primitiveText.toList := by
  intro glyph member
  rw [primitiveText_toList, List.mem_append, List.mem_singleton] at member
  obtain inside | rfl := member
  · obtain rfl | plain := cell.mem_line inside
    · rfl
    · exact isPlain_narrow plain
  · rfl

private theorem splitOnP_line (cell : LuaCell) : cell.line.splitOnP (· == ',') = cell.pieces :=
  Text.splitOnP_intercalate rfl (fun _ listed _ member => isPlain_comma (cell.isPlain_pieces listed member))
    (List.cons_ne_nil _ _)

private theorem decodeClosing_closing (cell : LuaCell) : decodeClosing cell.closing = some cell.glyph := by
  cases shown : cell.glyph with
  | none =>
    rw [closing, glyphText_none shown]
    rfl
  | some glyph =>
    rw [closing, glyphText_some shown, decodeClosing, List.dropLast_concat, Decimal.parseDigits_toDigits,
      Option.map_some, Char.ofNat_toNat]
    apply if_neg
    intro same
    -- the numeral would start with a letter
    have letter : 'n' ∈ Nat.toDigits 10 glyph.toNat ++ [')'] := same ▸ List.mem_cons_self
    rw [List.mem_append] at letter
    obtain digit | bracket := letter
    · cases Decimal.isDigit_toDigits digit
    · cases List.mem_singleton.mp bracket

theorem decodeLine_line (cell : LuaCell) : decodeLine cell.line = some cell.content := by
  rw [decodeLine, splitOnP_line, pieces]
  simp only [LuaRegion.ofOpening_opening, Decimal.parseDigits_toDigits, decodeClosing_closing, Option.bind_eq_bind,
    Option.bind_some, UInt16.ofNat_toNat]
  rfl

/-- The priority leaves no trace in a primitive. -/
theorem primitive_content (cell : LuaCell) :
    (LuaCell.mk cell.content.1 cell.content.2.1 cell.content.2.2 .normal).toLuaPrimitive = cell.toLuaPrimitive := rfl

theorem primitive_bytes (cell : LuaCell) : cell.toLuaPrimitive.data.toList = (cell.line ++ ['\n']).map byte := by
  have narrow := bytes_narrow cell.primitive_narrow
  rw [primitiveText_toList] at narrow
  exact narrow

/-- The line break ends a primitive and stands nowhere else in it. -/
theorem primitive_terminated (cell : LuaCell) :
    ∃ front, cell.toLuaPrimitive.data.toList = front ++ [10] ∧ 10 ∉ front := by
  refine ⟨cell.line.map byte, ?_, ?_⟩
  · rw [primitive_bytes, List.map_append]
    rfl
  · intro member
    obtain ⟨glyph, inside, same⟩ := List.mem_map.mp member
    have narrow : glyph.utf8Size = 1 := by
      apply cell.primitive_narrow
      rw [primitiveText_toList]
      exact List.mem_append_left _ inside
    have broken : glyph = '\n' := by
      rw [← char_byte narrow, same]
      rfl
    have whole := cell.line_whole inside
    rw [broken] at whole
    cases whole

end LuaCell

section Frames
open LuaCell

theorem encode_bytes (cells : List LuaCell) :
    (encodeLuaCells cells).data.toList = cells.flatMap fun cell => cell.toLuaPrimitive.data.toList := by
  have grows (before : ByteArray) : (cells.foldl (fun bytes cell => bytes ++ cell.toLuaPrimitive) before).data.toList =
      before.data.toList ++ cells.flatMap fun cell => cell.toLuaPrimitive.data.toList := by
    induction cells generalizing before with
    | nil => exact (List.append_nil _).symm
    | cons cell rest ih =>
      rw [List.foldl_cons, ih, ByteArray.toList_data_append, List.append_assoc, List.flatMap_cons]
  exact grows .empty

private theorem encode_chars (cells : List LuaCell) :
    (encodeLuaCells cells).data.toList.map char = (cells.map line).flatMap (· ++ ['\n']) := by
  rw [encode_bytes, List.map_flatMap, List.flatMap_map]
  congr 1
  funext cell
  rw [primitive_bytes, ← primitiveText_toList, map_char_byte cell.primitive_narrow]

private theorem mapM_decodeLine (cells : List LuaCell) : (cells.map line).mapM decodeLine = some (cells.map content) := by
  induction cells with
  | nil => rfl
  | cons cell rest ih =>
    rw [List.map_cons, List.mapM_cons, decodeLine_line, ih]
    rfl

private theorem decodeFrame_encode (cells : List LuaCell) : decodeFrame (encodeLuaCells cells) = some (cells.map content) := by
  have whole (piece : List Char) (listed : piece ∈ cells.map line) (glyph : Char) (member : glyph ∈ piece) :
      (glyph == '\n') = false := by
    obtain ⟨cell, _, rfl⟩ := List.mem_map.mp listed
    exact cell.line_whole member
  rw [decodeFrame, encode_chars, Text.splitOnP_terminated rfl whole, List.dropLast_concat, mapM_decodeLine]

/-- A frame is a function of what its primitives tell the display. -/
theorem encode_content {first second : List LuaCell} (same : first.map content = second.map content) :
    encodeLuaCells first = encodeLuaCells second := by
  have told (cells : List LuaCell) : encodeLuaCells cells = (cells.map content).foldl (fun bytes told =>
      bytes ++ (LuaCell.mk told.1 told.2.1 told.2.2 .normal).toLuaPrimitive) .empty := by
    rw [List.foldl_map]
    simp only [primitive_content]
    rfl
  rw [told first, told second, same]

private theorem count_lineBreaks (cells : List LuaCell) : (encodeLuaCells cells).data.toList.count 10 = cells.length := by
  rw [encode_bytes]
  induction cells with
  | nil => rfl
  | cons cell rest ih =>
    obtain ⟨front, terminated, absent⟩ := cell.primitive_terminated
    rw [List.flatMap_cons, List.count_append, ih, terminated, List.count_append, List.count_eq_zero_of_not_mem absent,
      List.count_singleton_self, List.length_cons]
    omega

end Frames

end StreamHost.Halo

namespace StreamHost.Proofs.LuaDecoding
open Halo LuaCell

/-- Two frames agree exactly when they tell the display the same. A frame is
read back whole, holds one line break for each primitive, at its end, and takes
as many bytes as its primitives were promised. -/
theorem lua_frames_decode (first second : List LuaCell) :
    (encodeLuaCells first = encodeLuaCells second ↔ first.map content = second.map content) ∧
    decodeFrame (encodeLuaCells first) = some (first.map content) ∧
    (encodeLuaCells first).data.toList = first.flatMap (fun cell => cell.toLuaPrimitive.data.toList) ∧
    (∀ cell : LuaCell, ∃ front, cell.toLuaPrimitive.data.toList = front ++ [10] ∧ 10 ∉ front) ∧
    (encodeLuaCells first).data.toList.count 10 = first.length ∧
    (encodeLuaCells first).size = (first.map fun cell => cell.byteLen.toNat).sum := by
  refine ⟨⟨?_, encode_content⟩, decodeFrame_encode first, encode_bytes first, primitive_terminated,
    count_lineBreaks first, ?_⟩
  · intro same
    have decoded := congrArg decodeFrame same
    rw [decodeFrame_encode, decodeFrame_encode] at decoded
    exact Option.some.inj decoded
  · simp only [encode_size, frameBytes, toNat_byteLen]

end StreamHost.Proofs.LuaDecoding
