import StreamHost.MidiLiveEvalSite

/-! When a live MIDI site that is refused, or closed, releases everything it opened.
Sites and sessions keep a log of what was obtained and what was closed. -/

namespace StreamHost.Proofs.LiveSiteRelease
open MidiLiveEvalSite

variable {ω σ : Type}

inductive Handling (σ : Type) where
  | obtained (session : σ)
  | closedSession (session : σ)
  | closedSite

def Handling.isClosedSite : Handling σ → Bool
  | closedSite => true
  | _ => false

def obtained {ε : Type} : Except ε σ → List (Handling σ)
  | .ok session => [.obtained session]
  | .error _ => []

/-- The same sessions, with a record of those obtained and those closed. -/
def logSessions (live : LiveMidi ω σ) : LiveMidi (ω × List (Handling σ)) σ where
  modeled direction world :=
    let (result, after) := live.modeled direction world.1
    (result, after, world.2 ++ obtained result)
  direction := live.direction
  close session world := (live.close session world.1).map id (·, world.2 ++ [.closedSession session])

/-- The same site, with a record of the session it hands out and of its being closed. -/
def logSite (site : EvalSite ω σ) : EvalSite (ω × List (Handling σ)) σ where
  deviceRecord := site.deviceRecord
  liveMidiSession world :=
    let (result, after) := site.liveMidiSession world.1
    (result, after, world.2 ++ result.elim [] obtained)
  close world := (site.close world.1).map id (·, world.2 ++ [.closedSite])

@[simp]
theorem logSite_record (site : EvalSite ω σ) : (logSite site).deviceRecord = site.deviceRecord := rfl

/-- The site was closed once, and so was every session that was obtained. -/
structure Released (log : List (Handling σ)) : Prop where
  site : log.countP Handling.isClosedSite = 1
  sessions : ∀ session, .obtained session ∈ log → .closedSession session ∈ log

/-- A MIDI site whose own session is of the direction of its record, or is refused,
or for which a modeled session of that direction can be made. -/
def Fits (live : LiveMidi ω σ) (site : EvalSite ω σ) (world : ω) : Prop :=
  match site.liveMidiSession world with
  | (some (.ok session), _) => live.direction session = liveDirection site.deviceRecord.direction
  | (some (.error _), _) => True
  | (none, after) => ∃ session, (live.modeled (liveDirection site.deviceRecord.direction) after).1 = .ok session ∧
      live.direction session = liveDirection site.deviceRecord.direction

section Refusal
variable (live : LiveMidi ω σ) (id : Symbol) (site : EvalSite ω σ) (world : ω) (log : List (Handling σ))

private theorem closeThen_logged {α : Type} (error : Error) : ∃ (failed : Error) (after : ω),
    (logSite site).closeThen error (world, log) = ((.error failed : Result α), after, log ++ [.closedSite]) := by
  unfold EvalSite.closeThen
  rcases closed : site.close world with ⟨_ | _, after⟩
  · exact ⟨_, after, by simp only [logSite, closed, Prod.map]; rfl⟩
  · exact ⟨_, after, by simp only [logSite, closed, Prod.map]; rfl⟩

private theorem checkDirection_logged (session : σ) :
    (live.direction session = liveDirection site.deviceRecord.direction ∧
      ∃ opened, checkDirection (logSessions live) id (logSite site) session (world, log) = (.ok opened, world, log)) ∨
    (live.direction session ≠ liveDirection site.deviceRecord.direction ∧ ∃ error after,
      checkDirection (logSessions live) id (logSite site) session (world, log) =
        (.error error, after, log ++ [.closedSite])) := by
  by_cases matched : live.direction session = liveDirection site.deviceRecord.direction
  · exact .inl ⟨matched, _, if_neg (not_not.mpr matched)⟩
  · obtain ⟨error, after, closed⟩ := closeThen_logged site world log _
    exact .inr ⟨matched, error, after, (if_pos matched).trans closed⟩

/-- The outcome of wrapping a site leaves nothing open when it is an error. -/
def Clean {α : Type} (outcome : Result α × ω × List (Handling σ)) : Prop :=
  ∀ error, outcome.1 = .error error → Released outcome.2.2

private theorem clean_closedSite {α : Type} (error : Error) (after : ω) :
    Clean ((.error error : Result α), after, [(.closedSite : Handling σ)]) := by
  intro _ _
  refine ⟨rfl, fun session member => ?_⟩
  cases List.mem_singleton.mp member

/-- A session whose direction is wrong is left open. -/
theorem clean_checkDirection (session : σ) :
    Clean (checkDirection (logSessions live) id (logSite site) session (world, [.obtained session])) ↔
      live.direction session = liveDirection site.deviceRecord.direction := by
  rcases checkDirection_logged live id site world [.obtained session] session with
    ⟨matched, opened, made⟩ | ⟨other, error, after, refused⟩
  · rw [made]
    exact iff_of_true nofun matched
  · rw [refused]
    refine iff_of_false (fun clean => ?_) other
    have closed := (clean error rfl).sessions session (by simp)
    simp at closed

/-- Without a modeled session the site itself is left open. -/
theorem clean_fromModeled : Clean (fromModeled (logSessions live) id (logSite site) (world, [])) ↔
    ∃ session, (live.modeled (liveDirection site.deviceRecord.direction) world).1 = .ok session ∧
      live.direction session = liveDirection site.deviceRecord.direction := by
  rcases made : live.modeled (liveDirection site.deviceRecord.direction) world with ⟨error | session, after⟩
  · have failed : (logSessions live).modeled (liveDirection site.deviceRecord.direction) (world, []) =
        (.error error, after, []) := by simp [logSessions, made, obtained]
    simp only [fromModeled, logSite_record, failed]
    refine iff_of_false (fun clean => ?_) ?_
    · cases (clean _ rfl).site
    · intro ⟨session, ok, _⟩
      cases ok
  · have opened : (logSessions live).modeled (liveDirection site.deviceRecord.direction) (world, []) =
        (.ok session, after, [.obtained session]) := by simp [logSessions, made, obtained]
    simp only [fromModeled, logSite_record, opened]
    apply (clean_checkDirection live id site after session).trans
    simp

private theorem clean_iff : Clean (fromEvalSite (logSessions live) id (logSite site) (world, [])) ↔
    (site.deviceRecord.kind = .midi → Fits live site world) := by
  unfold fromEvalSite
  split
  · rename_i other
    obtain ⟨error, after, closed⟩ := closeThen_logged site world [] _
    rw [closed]
    exact iff_of_true (clean_closedSite error after) fun midi => absurd midi other
  · rename_i midi
    have midi : site.deviceRecord.kind = .midi := not_not.mp midi
    rw [imp_iff_right midi, Fits]
    rcases owned : site.liveMidiSession world with ⟨_ | (error | session), after⟩
    · have handed : (logSite site).liveMidiSession (world, []) = (none, after, []) := by simp [logSite, owned]
      rw [handed]
      exact clean_fromModeled live id site after
    · have handed : (logSite site).liveMidiSession (world, []) = (some (.error error), after, []) := by
        simp [logSite, owned, obtained]
      obtain ⟨failed, last, closed⟩ := closeThen_logged site after [] error
      rw [handed]
      exact iff_of_true ((congrArg Clean closed).mpr (clean_closedSite failed last)) trivial
    · have handed : (logSite site).liveMidiSession (world, []) = (some (.ok session), after, [.obtained session]) := by
        simp [logSite, owned, obtained]
      rw [handed]
      exact clean_checkDirection live id site after session

end Refusal

/-- The session and its site are each closed once, and nothing else is done. -/
def ClosesBoth (session : σ) (log : List (Handling σ)) : Prop := log.Perm [.closedSession session, .closedSite]

private theorem closesBoth_iff (live : LiveMidi ω σ) (site : EvalSite ω σ) (record : DeviceRecord) (session : σ) (world : ω) :
    ClosesBoth session (MidiLiveEvalSite.close (logSessions live) ⟨record, session, logSite site⟩ (world, [])).2.2 ↔
      (live.close session world).1 = .ok () := by
  rcases closed : live.close session world with ⟨error | _, after⟩
  · refine iff_of_false (fun both => ?_) nofun
    have alone := both.length_eq
    simp [MidiLiveEvalSite.close, logSessions, closed] at alone
  · refine iff_of_true ?_ rfl
    simp only [MidiLiveEvalSite.close, logSessions, closed, Prod.map, id, logSite, List.nil_append]
    exact .refl _

/-- Refused sites release everything exactly when their session fits, and closed
ones exactly when their session closes without fail. -/
theorem live_site_releases_iff (live : LiveMidi ω σ) (id : Symbol) (site : EvalSite ω σ) (world : ω) :
    ((∀ error, (fromEvalSite (logSessions live) id (logSite site) (world, [])).1 = .error error →
        Released (fromEvalSite (logSessions live) id (logSite site) (world, [])).2.2) ↔
      (site.deviceRecord.kind = .midi → Fits live site world)) ∧
    ∀ record session,
      ClosesBoth session (MidiLiveEvalSite.close (logSessions live) ⟨record, session, logSite site⟩ (world, [])).2.2 ↔
        (live.close session world).1 = .ok () :=
  ⟨clean_iff live id site world, fun record session => closesBoth_iff live site record session world⟩

/-- An input whose site hands out a duplex session. -/
def duplexInput : EvalSite Unit LiveMidiDirection where
  deviceRecord := .modeledMidiInput "midi/hardware/live-0" "Live MIDI"
  liveMidiSession world := (some (.ok .duplex), world)
  close world := (.ok (), world)

theorem duplex_session_left_open : ¬ ∀ (live : LiveMidi Unit LiveMidiDirection) (id : Symbol)
    (site : EvalSite Unit LiveMidiDirection) (error : Error),
      (fromEvalSite (logSessions live) id (logSite site) ((), [])).1 = .error error →
        Released (fromEvalSite (logSessions live) id (logSite site) ((), [])).2.2 := by
  intro always
  have closed := (always ⟨fun direction world => (.ok direction, world), fun session => session,
    fun _ world => (.ok (), world)⟩ (.new "midi/hardware/live-0") duplexInput _ rfl).sessions .duplex (.head _)
  cases closed with
  | tail _ closed => cases List.mem_singleton.mp closed

section Catalog
variable {κ : Type} {live : LiveMidi ω σ} {catalog : DeviceCatalog ω} {id : Symbol}
  (makes : ∀ direction world, ∃ session, (live.modeled direction world).1 = .ok session ∧ live.direction session = direction)
include makes

private theorem fromEvalSite_own_ok_iff (site : StreamEvalSite) (world : ω) :
    (∃ opened, (fromEvalSite live id site.evalSite world).1 = .ok opened) ↔ site.deviceRecord.kind = .midi := by
  unfold fromEvalSite
  split
  · rename_i other
    refine iff_of_false ?_ other
    intro ⟨opened, made⟩
    cases made
  · rename_i midi
    obtain ⟨session, made, matched⟩ := makes (liveDirection site.deviceRecord.direction) world
    refine iff_of_true ⟨⟨site.deviceRecord, session, site.evalSite⟩, ?_⟩ (not_not.mp midi)
    change (fromModeled live id site.evalSite world).1 = _
    rcases modeled : live.modeled (liveDirection site.deviceRecord.direction) world with ⟨result, after⟩
    obtain rfl : result = .ok session := (congrArg Prod.fst modeled).symm.trans made
    unfold fromModeled
    rw [show site.evalSite.deviceRecord = site.deviceRecord from rfl, modeled]
    exact congrArg Prod.fst (if_neg (not_not.mpr matched))

/-- When modeled sessions can be made, the catalog's MIDI sites, and no others, go live. -/
theorem openLive_ok_iff (world : ω) : (∃ opened, (catalog.openLive live id world).1 = .ok opened) ↔
    ∃ site, (catalog.openSite id world).1 = .ok site ∧ site.deviceRecord.kind = .midi := by
  unfold DeviceCatalog.openLive
  rcases catalog.openSite id world with ⟨error | site, after⟩
  · simp
  · simpa using fromEvalSite_own_ok_iff makes site after

theorem openLiveChecked_ok_iff (context : HostContext κ) (cx : κ) (world : ω) :
    (∃ opened, (catalog.openLiveChecked context live cx id world).1 = .ok opened) ↔
      ∃ site, (catalog.openChecked context cx id world).1 = .ok site ∧ site.deviceRecord.kind = .midi := by
  unfold DeviceCatalog.openLiveChecked
  rcases catalog.openChecked context cx id world with ⟨error | site, after⟩
  · simp
  · simpa using fromEvalSite_own_ok_iff makes site after.2

end Catalog

end StreamHost.Proofs.LiveSiteRelease
