import StreamHost.Proofs.GlyphDiff
import StreamHost.Proofs.HaloStream

/-! What a card looks like. The cells of an accepted card are the characters of its
texts, place by place, and after an acknowledged frame the display shows them
wherever no cell was deferred. -/

namespace StreamHost.Halo
open Std Proofs.FrameConvergence Proofs.GlyphDiff

namespace GlanceCard

/-- The text of a region; a part the card does not have leaves its region blank. -/
def text (card : GlanceCard) : LuaRegion → List Char
  | .title => card.title.toList
  | .metricLabel => ((card.metric.map GlanceMetric.label).getD "").toList
  | .metricValue => ((card.metric.map GlanceMetric.value).getD "").toList
  | .actionLabel => ((card.action.map GlanceAction.label).getD "").toList
  | .urgency => card.urgency.toList
  | .warrant => if card.bypassBudget then ['!'] else []

def priority (card : GlanceCard) : LuaRegion → LuaCellPriority
  | .title | .metricLabel | .metricValue | .actionLabel => LuaFrameState.contentPriority card
  | .urgency => LuaFrameState.urgencyPriority card
  | .warrant => .warrant

def glyph (card : GlanceCard) (key : CellKey) : Option Char := (card.text key.region)[key.index.toNat]?

def cell (card : GlanceCard) (key : CellKey) : Option StateCell := (card.glyph key).map (⟨·, card.priority key.region⟩)

/-- The regions filled with text, in the order they are filled. -/
def regions : List LuaRegion := [.title, .metricLabel, .metricValue, .actionLabel, .urgency]

/-- The first region that is given more characters than it has places. -/
def overfull (card : GlanceCard) : Option LuaRegion := regions.find? fun region => 65536 < (card.text region).length

end GlanceCard

def regionTooLong (region : LuaRegion) : Error := .hostError s!"Halo Lua region {region.token} exceeds 65535 glyph cells"

namespace LuaFrameState

section Text
variable (region : LuaRegion) (priority : LuaCellPriority)

def written (index : Nat) (glyphs : List Char) (key : CellKey) : Option StateCell :=
  if key.region = region ∧ index ≤ key.index.toNat then glyphs[key.index.toNat - index]?.map (⟨·, priority⟩) else none

private theorem written_cons {index : Nat} (place : index ≤ 65535) (glyph : Char) (rest : List Char) (key : CellKey)
    (below : Option StateCell) : (written region priority (index + 1) rest key).or
      (if (⟨region, UInt16.ofNat index⟩ : CellKey) = key then some ⟨glyph, priority⟩ else below) =
        (written region priority index (glyph :: rest) key).or below := by
  have whole : (UInt16.ofNat index).toNat = index := UInt16.toNat_ofNat_of_lt (Nat.lt_succ_of_le place)
  unfold written
  by_cases same : (⟨region, UInt16.ofNat index⟩ : CellKey) = key
  · subst same
    simp [whole]
  · rw [if_neg same]
    by_cases later : key.region = region ∧ index ≤ key.index.toNat
    · have apart : index ≠ key.index.toNat := by
        intro here
        apply same
        obtain ⟨inside, _⟩ := later
        cases key
        cases inside
        rw [here, UInt16.ofNat_toNat]
      obtain ⟨inside, reached⟩ := later
      have next : key.index.toNat - index = key.index.toNat - (index + 1) + 1 := by omega
      rw [if_pos ⟨inside, by omega⟩, if_pos ⟨inside, reached⟩, next, List.getElem?_cons_succ]
    · rw [if_neg later, if_neg fun further => later ⟨further.1, by omega⟩]

private theorem insertText_ok {index : Nat} {glyphs : List Char} (fits : index + glyphs.length ≤ 65536)
    (cells : ExtTreeMap CellKey StateCell) : ∃ next, insertText region priority index glyphs cells = .ok next ∧
      ∀ key : CellKey, next[key]? = (written region priority index glyphs key).or cells[key]? := by
  induction glyphs generalizing index cells with
  | nil =>
    refine ⟨cells, rfl, ?_⟩
    intro key
    simp [written]
  | cons glyph rest ih =>
    rw [List.length_cons] at fits
    have room : index + 1 + rest.length ≤ 65536 := by omega
    obtain ⟨next, returned, drawn⟩ := ih room
      (cells.insert ⟨region, UInt16.ofNat index⟩ ⟨glyph, priority⟩)
    refine ⟨next, ?_, ?_⟩
    · rw [insertText, if_neg (by omega), returned]
    · intro key
      rw [drawn, OrdMap.getElem?_insert, written_cons region priority (by omega)]

private theorem insertText_error {index : Nat} {glyphs : List Char} (place : index ≤ 65536)
    (overfilled : 65536 < index + glyphs.length) (cells : ExtTreeMap CellKey StateCell) :
    insertText region priority index glyphs cells = .error (regionTooLong region) := by
  induction glyphs generalizing index cells with
  | nil =>
    rw [List.length_nil] at overfilled
    omega
  | cons glyph rest ih =>
    rw [List.length_cons] at overfilled
    rw [insertText]
    split
    · rfl
    · exact ih (by omega) (by omega) _

end Text

private theorem insertPart_eq {α : Type} (region : LuaRegion) (priority : LuaCellPriority) (text : α → String) (part : Option α)
    (cells : ExtTreeMap CellKey StateCell) :
    insertPart region priority text part cells = insertText region priority 0 ((part.map text).getD "").toList cells := by
  cases part <;> rfl

section Card
variable (card : GlanceCard)

def drawRegion (cells : ExtTreeMap CellKey StateCell) (region : LuaRegion) : Result (ExtTreeMap CellKey StateCell) :=
  insertText region (card.priority region) 0 (card.text region) cells

/-- The regions drawn so far hold the card's cells, the others are blank. -/
def Drawn (done : List LuaRegion) (cells : ExtTreeMap CellKey StateCell) : Prop :=
  ∀ key : CellKey, cells[key]? = if key.region ∈ done then card.cell key else none

variable {card}

theorem Drawn.region {done : List LuaRegion} {cells : ExtTreeMap CellKey StateCell} (drawn : Drawn card done cells)
    {region : LuaRegion} (fresh : region ∉ done) (fits : (card.text region).length ≤ 65536) :
    ∃ next, drawRegion card cells region = .ok next ∧ Drawn card (done ++ [region]) next := by
  obtain ⟨next, returned, written⟩ := insertText_ok region (card.priority region) (by rwa [Nat.zero_add]) cells
  refine ⟨next, returned, ?_⟩
  intro key
  rw [written, drawn key, LuaFrameState.written]
  by_cases here : key.region = region
  · have absent : key.region ∉ done := here ▸ fresh
    have now : key.region ∈ done ++ [region] := List.mem_append_right _ (List.mem_singleton.mpr here)
    rw [if_pos ⟨here, Nat.zero_le _⟩, if_neg absent, if_pos now, Option.or_none, Nat.sub_zero, GlanceCard.cell,
      GlanceCard.glyph, here]
  · have same : key.region ∈ done ++ [region] ↔ key.region ∈ done := by
      rw [List.mem_append, List.mem_singleton, or_iff_left here]
    simp only [here, false_and, if_false, Option.none_or, same]

/-- Drawing goes on to the first region whose text does not fit. -/
theorem Drawn.run (regions : List LuaRegion) {done : List LuaRegion} {cells : ExtTreeMap CellKey StateCell}
    (drawn : Drawn card done cells) (distinct : (done ++ regions).Nodup) :
    match regions.find? fun region => 65536 < (card.text region).length with
    | some region => regions.foldlM (drawRegion card) cells = .error (regionTooLong region)
    | none => ∃ next, regions.foldlM (drawRegion card) cells = .ok next ∧ Drawn card (done ++ regions) next := by
  induction regions generalizing done cells with
  | nil => exact ⟨cells, rfl, by rwa [List.append_nil]⟩
  | cons region rest ih =>
    by_cases overfilled : 65536 < (card.text region).length
    · rw [List.find?_cons_of_pos (by simpa using overfilled)]
      have refused : drawRegion card cells region = .error (regionTooLong region) :=
        insertText_error region (card.priority region) (Nat.zero_le _) (by rwa [Nat.zero_add]) cells
      simp only [List.foldlM_cons, refused]
      rfl
    · have fresh : region ∉ done := by
        intro member
        exact (List.nodup_append.mp distinct).2.2 region member region List.mem_cons_self rfl
      obtain ⟨next, returned, further⟩ := drawn.region fresh (Nat.le_of_not_lt overfilled)
      rw [List.find?_cons_of_neg (by simpa using overfilled)]
      have later := ih further (by rwa [List.append_assoc])
      simp only [List.foldlM_cons, returned, List.append_assoc] at later ⊢
      exact later

private theorem fromCard_eq : fromCard card = do
    let cells ← GlanceCard.regions.foldlM (drawRegion card) ∅
    return ⟨if card.bypassBudget then cells.insert ⟨.warrant, 0⟩ ⟨'!', .warrant⟩ else cells⟩ := by
  unfold fromCard GlanceCard.regions
  simp only [insertPart_eq, List.foldlM_cons, List.foldlM_nil, bind_assoc, pure_bind]
  rfl

theorem Drawn.warrant {cells : ExtTreeMap CellKey StateCell} (drawn : Drawn card GlanceCard.regions cells)
    (key : CellKey) : (if card.bypassBudget then cells.insert ⟨.warrant, 0⟩ ⟨'!', .warrant⟩ else cells)[key]? =
      card.cell key := by
  have regions : key.region ∈ GlanceCard.regions ↔ key.region ≠ .warrant := by
    cases key.region <;> decide
  by_cases here : key.region = .warrant
  · have blank : cells[key]? = none := by rw [drawn key, if_neg (by rw [regions]; exact not_not.mpr here)]
    cases marked : card.bypassBudget with
    | false => simp [blank, GlanceCard.cell, GlanceCard.glyph, here, GlanceCard.text, marked]
    | true =>
      rw [if_pos rfl, OrdMap.getElem?_insert, blank]
      simp only [GlanceCard.cell, GlanceCard.glyph, here, GlanceCard.text, marked, if_true, GlanceCard.priority]
      split
      · rename_i same
        rw [← same]
        rfl
      · rename_i apart
        have past : key.index.toNat ≠ 0 := by
          intro zero
          apply apart
          cases key
          cases here
          rw [← UInt16.toNat_inj.mp (zero.trans UInt16.toNat_zero.symm)]
        rw [List.getElem?_eq_none (by simp; omega)]
        rfl
  · have held : cells[key]? = card.cell key := by rw [drawn key, if_pos (regions.mpr here)]
    split
    · rw [OrdMap.getElem?_insert, if_neg, held]
      intro same
      apply here
      rw [← same]
    · exact held

end Card

end LuaFrameState

/-- A card is drawn cell by cell, or refused for the first text that does not fit. -/
inductive GlanceCard.Draws (card : GlanceCard) : Result LuaFrameState → Prop where
  | refused (region : LuaRegion) (first : card.overfull = some region) : Draws card (.error (regionTooLong region))
  | drawn (state : LuaFrameState) (fits : card.overfull = none) (cells : ∀ key, state.cells[key]? = card.cell key) :
      Draws card (.ok state)

private theorem GlanceCard.draws (card : GlanceCard) : card.Draws (LuaFrameState.fromCard card) := by
  have blank : LuaFrameState.Drawn card [] ∅ := fun _ => rfl
  have run := blank.run GlanceCard.regions (by decide)
  rw [LuaFrameState.fromCard_eq]
  cases overfull : card.overfull with
  | some region =>
    rw [GlanceCard.overfull] at overfull
    rw [overfull] at run
    rw [run]
    exact .refused region overfull
  | none =>
    have fits := overfull
    rw [GlanceCard.overfull] at overfull
    rw [overfull] at run
    obtain ⟨cells, returned, drawn⟩ := run
    rw [returned]
    exact .drawn _ fits (LuaFrameState.Drawn.warrant drawn)

private theorem GlanceCard.drawn_exact {card : GlanceCard} {state : LuaFrameState} :
    LuaFrameState.fromCard card = .ok state ↔ card.overfull = none ∧ ∀ key, state.cells[key]? = card.cell key := by
  have draws := card.draws
  generalize LuaFrameState.fromCard card = result at draws
  cases draws with
  | refused region first => exact iff_of_false nofun fun drawn => nomatch first.symm.trans drawn.1
  | drawn made fits cells =>
    constructor
    · intro same
      cases same
      exact ⟨fits, cells⟩
    · intro drawn
      obtain ⟨_, others⟩ := drawn
      have same : made.cells = state.cells := by
        apply ExtTreeMap.ext_getElem?
        intro key
        rw [cells, others]
      cases made
      cases state
      cases same
      rfl

private theorem GlanceCard.refused_exact {card : GlanceCard} {error : Error} :
    LuaFrameState.fromCard card = .error error ↔ ∃ region, card.overfull = some region ∧ error = regionTooLong region := by
  have draws := card.draws
  generalize LuaFrameState.fromCard card = result at draws
  cases draws with
  | refused region first =>
    constructor
    · intro same
      exact ⟨region, first, (Except.error.inj same).symm⟩
    · intro refused
      obtain ⟨other, found, same⟩ := refused
      rw [same, Option.some.inj (first.symm.trans found)]
  | drawn made fits =>
    refine iff_of_false nofun ?_
    intro refused
    obtain ⟨_, found, _⟩ := refused
    cases fits.symm.trans found

section Places
variable {fromScene : Expr → Result GlanceCard} {next : Expr} {budget : LuaFrameBudget} {scheduler : LuaFrameScheduler}
  {target committed : LuaFrameState} {diff : FrameDiff}

private theorem foldl_showCell_of_notMem {cells : List LuaCell} {key : CellKey} (absent : key ∉ cells.map LuaCell.key)
    (screen : Screen) : cells.foldl showCell screen key = screen key := by
  induction cells generalizing screen with
  | nil => rfl
  | cons cell rest ih =>
    rw [List.map_cons, List.mem_cons, not_or] at absent
    obtain ⟨apart, later⟩ := absent
    rw [List.foldl_cons, ih later]
    exact if_neg (Ne.symm apart)

/-- After a tick the deferred places are as before, and all others show the target. -/
theorem schedule_places (accepted : LuaFrameState.fromGlance fromScene next = .ok target)
    (scheduled : scheduler.schedule fromScene next budget = (.ok diff, ⟨committed⟩)) (key : CellKey) :
    committed.glyphs key =
      if key ∈ diff.deferred.map LuaCell.key then scheduler.committed.glyphs key else target.glyphs key := by
  have positive : budget.maxBytesPerTick ≠ 0 := by
    intro zero
    rw [LuaFrameScheduler.schedule, if_pos zero] at scheduled
    cases scheduled
  have settles : Scheduled budget target scheduler.committed (scheduler.schedule fromScene next budget) :=
    schedule_scheduled positive accepted
  have schedules := schedules fromScene next budget scheduler
  rw [scheduled] at settles schedules
  cases settles with
  | emitted _ _ parts follows _ _ =>
  cases schedules with
  | emitted _ _ shown _ _ =>
  split
  · rename_i deferred
    have distinct : ((diff.cells ++ diff.deferred).map LuaCell.key).Nodup :=
      (parts.map LuaCell.key).nodup_iff.mpr (changedCells_nodup _ _)
    rw [List.map_append, List.nodup_append] at distinct
    rw [shown, foldl_showCell_of_notMem]
    intro emitted
    exact distinct.2.2 key emitted key deferred rfl
  · rename_i settled
    rw [← follows, ((List.mergeSort_perm _ _).map LuaCell.key).mem_iff, mem_changed_keys, not_not] at settled
    rw [LuaFrameState.glyphs, LuaFrameState.glyphs, settled]

end Places

namespace HaloSession

/-- What the glasses show once the link has delivered all of a session's bytes. -/
def screen (session : HaloSession) : Screen := (ByteDisplay.blank.receive (linkBytes session.sent)).state

variable (externals : HaloExternals)

/-- One packet is sent for the card of the request. Places it defers show what they
showed, and every other place shows the card. -/
def ShowsCard (request : EffectRequest) (before after : HaloSession) : Prop :=
  ∃ card packet, externals.fromScene request.payload = .ok card ∧ card.overfull = none ∧
    after.sent = before.sent ++ [packet] ∧ ∀ key, after.screen key =
      if key ∈ packet.diff.deferred.map LuaCell.key then before.screen key else card.glyph key

private theorem screen_run (route : HaloRouteKind) (samples : List HaloSample) (profile : DeviceProfile)
    (budget : LuaFrameBudget) (calls : List SessionCall) :
    ((machine externals).final (.new route samples profile budget) calls).screen =
      ((machine externals).final (.new route samples profile budget) calls).scheduler.committed.glyphs := by
  have streams := (streams_run externals route samples profile budget calls).chunks [linkBytes _] List.flatten_singleton
  exact congrArg LineReader.state streams

private theorem invoke_shows {session : HaloSession} {request : EffectRequest} {receipt : EffectReceipt}
    (issued : (session.invoke externals request).1 = .ok receipt)
    (before : session.screen = session.scheduler.committed.glyphs)
    (after : (session.invoke externals request).2.screen =
      (session.invoke externals request).2.scheduler.committed.glyphs) :
    ShowsCard externals request session (session.invoke externals request).2 := by
  unfold ShowsCard
  rw [after, before]
  clear after before
  unfold invoke at issued ⊢
  split at issued
  · cases issued
  split at issued
  · cases issued
  split at issued
  · cases issued
  rename_i diff scheduler scheduled
  simp only [] at issued ⊢
  split at issued
  · cases issued
  rename_i counted
  rw [if_neg counted]
  cases accepted : LuaFrameState.fromGlance externals.fromScene request.payload with
  | error error =>
    rw [LuaFrameScheduler.schedule, accepted] at scheduled
    split at scheduled
    · cases scheduled
    · cases scheduled
  | ok target =>
    have places := schedule_places accepted scheduled
    obtain ⟨card, read, drawn⟩ := Except.bind_eq_ok.mp accepted
    obtain ⟨fits, cells⟩ := card.drawn_exact.mp drawn
    refine ⟨card, _, read, fits, rfl, ?_⟩
    intro key
    have glyph : target.glyphs key = card.glyph key := by
      rw [LuaFrameState.glyphs, cells, GlanceCard.cell, Option.map_map]
      exact Option.map_id_fun' ▸ rfl
    rw [places, glyph]

end HaloSession

end StreamHost.Halo

namespace StreamHost.Proofs.GlanceText
open Halo FrameConvergence

/-- Reading a glance yields exactly the cells of its card if every text fits, and an
error that names the first region whose text does not fit otherwise; what is no card is
refused as it was read. -/
theorem glance_cells_exact (fromScene : Expr → Result GlanceCard) (frame : Expr) :
    (∀ state, LuaFrameState.fromGlance fromScene frame = .ok state ↔ ∃ card, fromScene frame = .ok card ∧
      card.overfull = none ∧ ∀ key, state.cells[key]? = card.cell key) ∧
    (∀ error, LuaFrameState.fromGlance fromScene frame = .error error ↔ fromScene frame = .error error ∨
      ∃ card region, fromScene frame = .ok card ∧ card.overfull = some region ∧ error = regionTooLong region) := by
  cases read : fromScene frame with
  | error cause =>
    have failed : LuaFrameState.fromGlance fromScene frame = .error cause := by
      rw [LuaFrameState.fromGlance, read]
      rfl
    simp [failed, eq_comm]
  | ok card =>
    have made : LuaFrameState.fromGlance fromScene frame = LuaFrameState.fromCard card := by
      rw [LuaFrameState.fromGlance, read]
      rfl
    simp [made, GlanceCard.drawn_exact, GlanceCard.refused_exact]

/-- Every acknowledged frame of a session shows its card: read from the bytes of the link,
the glasses show the card's texts, except where the frame has deferred a cell. -/
theorem acknowledged_card_shown (externals : HaloExternals) (provider : HaloProvider) (session : HaloSession)
    (opened : provider.openSession externals.symbols = .ok session) (calls : List SessionCall) :
    ∀ event ∈ (HaloSession.machine externals).trace session calls, ∀ request receipt,
      event.input = .invoke request → event.output = .receipt (.ok receipt) →
        HaloSession.ShowsCard externals request event.before event.after := by
  obtain ⟨route, samples, rfl⟩ := provider.openSession_new opened
  intro event member request receipt asked issued
  obtain ⟨earlier, _, _, same⟩ := (HaloSession.machine externals).mem_trace.mp member
  rw [asked] at same
  rw [same] at issued ⊢
  have before := HaloSession.screen_run externals route samples provider.profile provider.frameBudget earlier
  have after := HaloSession.screen_run externals route samples provider.profile provider.frameBudget
    (earlier ++ [.invoke request])
  rw [Machine.final_snoc] at after
  exact HaloSession.invoke_shows externals (SessionAnswer.receipt.inj issued) before after

theorem hi_card_shown : ∃ before after,
    HaloSession.ShowsCard oneScene (frameRequest (.string "scene") "first") before after := by
  obtain ⟨target, accepted, _⟩ := one_scene_accepted
  let call : SessionCall := .invoke (frameRequest (.string "scene") "first")
  let session := HaloSession.new .ble [] noProfile ⟨64⟩
  let started : HaloSession := { session with started := true }
  have acknowledged : ∃ receipt, (started.invoke oneScene (frameRequest (.string "scene") "first")).1 = .ok receipt :=
    HaloSession.invoke_acknowledged oneScene rfl rfl accepted (by decide)
  obtain ⟨receipt, issued⟩ := acknowledged
  have member : (HaloSession.machine oneScene).event started call ∈
      (HaloSession.machine oneScene).trace session [.start, call] := List.mem_cons_of_mem _ List.mem_cons_self
  exact ⟨_, _, acknowledged_card_shown oneScene localHalo session rfl [.start, call] _ member _ receipt rfl
    (congrArg SessionAnswer.receipt issued)⟩

end StreamHost.Proofs.GlanceText
