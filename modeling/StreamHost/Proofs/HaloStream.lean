import StreamHost.Lib.LineReader
import StreamHost.Proofs.HaloDisplay
import StreamHost.Proofs.LuaDecoding

/-! The display as the link sees it: a reader of bytes that knows nothing of
packets. The bytes a session sends, however the link cuts them, show what the
session has committed, and a broken link shows the primitives that came through. -/

namespace StreamHost.Halo
open NarrowText

abbrev Screen := CellKey → Option Char

/-- The screen takes over the cell a line tells of, and passes over any other line. -/
def showLine (screen : Screen) (line : List UInt8) : Screen :=
  match decodeLine (line.map char) with
  | some (region, index, glyph) => fun key => if (⟨region, index⟩ : CellKey) = key then glyph else screen key
  | none => screen

abbrev ByteDisplay := LineReader UInt8 Screen

def ByteDisplay.blank : ByteDisplay := ⟨[], fun _ => none⟩

def ByteDisplay.receive (display : ByteDisplay) (bytes : List UInt8) : ByteDisplay := display.feed 10 showLine bytes

/-- All bytes of a session's packets, end to end. -/
def linkBytes (packets : List HaloFramePacket) : List UInt8 := packets.flatMap fun packet => packet.lua.data.toList

def sentCells (packets : List HaloFramePacket) : List LuaCell := packets.flatMap fun packet => packet.diff.cells

def HaloFramePacket.Encoded (packet : HaloFramePacket) : Prop := packet.lua = encodeLuaCells packet.diff.cells

namespace LuaCell

def lineBytes (cell : LuaCell) : List UInt8 := cell.line.map byte

private theorem primitive_lineBytes (cell : LuaCell) : cell.toLuaPrimitive.data.toList = cell.lineBytes ++ [10] := by
  rw [primitive_bytes, List.map_append]
  rfl

private theorem not_mem_lineBytes (cell : LuaCell) : 10 ∉ cell.lineBytes := by
  obtain ⟨front, terminated, absent⟩ := cell.primitive_terminated
  obtain ⟨same, _⟩ := List.append_inj' (cell.primitive_lineBytes.symm.trans terminated) rfl
  rwa [same]

private theorem showLine_lineBytes (screen : Screen) (cell : LuaCell) : showLine screen cell.lineBytes = showCell screen cell := by
  have narrow : Narrow cell.line := by
    intro glyph member
    apply cell.primitive_narrow
    rw [primitiveText_toList]
    exact List.mem_append_left _ member
  rw [showLine, lineBytes, map_char_byte narrow, decodeLine_line]
  rfl

end LuaCell

private theorem foldl_showLine (cells : List LuaCell) (screen : Screen) :
    (cells.map LuaCell.lineBytes).foldl showLine screen = cells.foldl showCell screen := by
  rw [List.foldl_map]
  simp only [LuaCell.showLine_lineBytes]

private theorem linkBytes_lines {packets : List HaloFramePacket} (encoded : ∀ packet ∈ packets, packet.Encoded) :
    linkBytes packets = ((sentCells packets).map LuaCell.lineBytes).flatMap (· ++ [10]) := by
  have bytes (cells : List LuaCell) :
      (encodeLuaCells cells).data.toList = (cells.map LuaCell.lineBytes).flatMap (· ++ [10]) := by
    rw [encode_bytes, List.flatMap_map]
    congr 1
    funext cell
    exact cell.primitive_lineBytes
  induction packets with
  | nil => rfl
  | cons packet rest ih =>
    obtain ⟨here, later⟩ := List.forall_mem_cons.mp encoded
    rw [linkBytes, List.flatMap_cons, here, bytes, sentCells, List.flatMap_cons, List.map_append, List.flatMap_append]
    exact congrArg _ (ih later)

private theorem shown_sentCells (packets : List HaloFramePacket) :
    shown packets = (sentCells packets).foldl showCell fun _ => none := List.foldl_flatMap.symm

/-- What a byte display makes of the packets of one session. -/
structure StreamFaithful (packets : List HaloFramePacket) (committed : LuaFrameState) : Prop where
  chunks : ∀ chunks : List (List UInt8), chunks.flatten = linkBytes packets →
    chunks.foldl ByteDisplay.receive ByteDisplay.blank = ⟨[], committed.glyphs⟩
  cut : ∀ early late, linkBytes packets = early ++ late → (ByteDisplay.blank.receive early).state =
    ((sentCells packets).take (early.count 10)).foldl showCell fun _ => none

private theorem StreamFaithful.of_encoded {packets : List HaloFramePacket} {committed : LuaFrameState}
    (encoded : ∀ packet ∈ packets, packet.Encoded) (displayed : shown packets = committed.glyphs) :
    StreamFaithful packets committed := by
  have lines := linkBytes_lines encoded
  have whole : ∀ line ∈ (sentCells packets).map LuaCell.lineBytes, 10 ∉ line :=
    List.forall_mem_map.mpr fun cell _ => cell.not_mem_lineBytes
  constructor
  · intro chunks joined
    have fed : chunks.foldl ByteDisplay.receive ByteDisplay.blank = ByteDisplay.blank.receive chunks.flatten :=
      LineReader.feed_flatten 10 showLine ByteDisplay.blank chunks
    rw [fed, joined, lines, ByteDisplay.receive, ByteDisplay.blank, LineReader.feed_lines 10 showLine whole,
      foldl_showLine, ← shown_sentCells, displayed]
  · intro early late cut
    rw [lines] at cut
    rw [ByteDisplay.receive, ByteDisplay.blank, LineReader.feed_cut 10 showLine whole _ cut, ← List.map_take,
      foldl_showLine]

namespace HaloSession
variable (externals : HaloExternals)

private theorem invoke_encoded {session : HaloSession} (encoded : ∀ packet ∈ session.sent, packet.Encoded)
    (request : EffectRequest) : ∀ packet ∈ (session.invoke externals request).2.sent, packet.Encoded := by
  have outcome := invoke_outcome externals session request
  generalize session.invoke externals request = result at *
  cases outcome with
  | refused => exact encoded
  | sent diff => exact List.forall_mem_append.mpr ⟨encoded, List.forall_mem_singleton.mpr rfl⟩

/-- Every packet of a run carries the encoding of its own cells. -/
theorem sent_encoded (route : HaloRouteKind) (samples : List HaloSample) (profile : DeviceProfile)
    (budget : LuaFrameBudget) (calls : List SessionCall) :
    ∀ packet ∈ ((machine externals).final (.new route samples profile budget) calls).sent, packet.Encoded := by
  apply (machine externals).final_preserves fun session => ∀ packet ∈ session.sent, packet.Encoded
  · intro session call encoded
    cases call with
    | start | stop => exact encoded
    | invoke request => exact invoke_encoded externals encoded request
    | poll kind =>
      obtain ⟨samples, same⟩ := session.poll_frame externals kind
      have moved : ((machine externals).step session (.poll kind)).2 = { session with samples } := same
      rw [moved]
      exact encoded
  · exact List.forall_mem_nil _

theorem streams_run (route : HaloRouteKind) (samples : List HaloSample) (profile : DeviceProfile)
    (budget : LuaFrameBudget) (calls : List SessionCall) :
    StreamFaithful ((machine externals).final (.new route samples profile budget) calls).sent
      ((machine externals).final (.new route samples profile budget) calls).scheduler.committed :=
  .of_encoded (sent_encoded externals route samples profile budget calls)
    (follows_run externals route samples profile budget calls).displayed

end HaloSession

end StreamHost.Halo

namespace StreamHost.Proofs.HaloStream
open Halo

/-- After every run of an opened session, the bytes it has sent, received in chunks of
any size, show exactly the committed glyphs; cut off anywhere, they show the cells
whose primitives have come through whole. -/
theorem byte_stream_follows_session (externals : HaloExternals) (provider : HaloProvider) (session : HaloSession)
    (opened : provider.openSession externals.symbols = .ok session) (calls : List SessionCall) :
    StreamFaithful ((HaloSession.machine externals).final session calls).sent
      ((HaloSession.machine externals).final session calls).scheduler.committed := by
  obtain ⟨route, samples, rfl⟩ := provider.openSession_new opened
  exact HaloSession.streams_run externals route samples provider.profile provider.frameBudget calls

theorem byte_stream_follows_card : ∃ session,
    StreamFaithful ((HaloSession.machine oneScene).final session
        [.start, .invoke (frameRequest (.string "scene") "first"), .invoke (frameRequest (.string "scene") "second")]).sent
      ((HaloSession.machine oneScene).final session [.start, .invoke (frameRequest (.string "scene") "first"),
        .invoke (frameRequest (.string "scene") "second")]).scheduler.committed :=
  ⟨_, byte_stream_follows_session oneScene localHalo _ rfl _⟩

end StreamHost.Proofs.HaloStream
