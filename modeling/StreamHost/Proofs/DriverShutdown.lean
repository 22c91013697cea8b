import StreamHost.Backend

/-! When an Ok from a close or cancel means that the external driver is down. The
clones of a stream share one handle, whose flag is set before the driver has
answered: the driver is asked at most once, whatever it answers. -/

namespace StreamHost.Proofs.DriverShutdown
open HostOpenStream

variable {ν μ δ : Type} {stream : PushStream ν μ} {driver : HostStreamDriver δ}

abbrev Logged (δ : Type) := δ × List (Result Unit)

/-- What the shutdown calls of the attached driver have returned so far. -/
def outcomes (state : StreamClones ν (Logged δ)) : List (Result Unit) :=
  (state.opened.driver.map (·.driver.2)).getD []

def Reaches (state : StreamClones ν δ) : CloneCall → Prop
  | .clone => False
  | .close clone | .cancel clone => clone < state.clones

/-- The handle before and after its one shutdown call. -/
inductive Handled : Option (HostDriverHandle (Logged δ)) → List (Result Unit) → Prop where
  | idle (state : δ) : Handled (some ⟨(state, []), false⟩) []
  | asked (state : δ) (result : Result Unit) : Handled (some ⟨(state, [result]), true⟩) [result]

def Attached (state : StreamClones ν (Logged δ)) : Prop := Handled state.opened.driver (outcomes state)

/-- All a close or cancel can do to a handle: ask the driver, or answer for it. -/
inductive Shuts (driver : HostStreamDriver δ) : Option (HostDriverHandle (Logged δ)) → Result Unit →
    Option (HostDriverHandle (Logged δ)) → Prop where
  | asks (state : δ) : Shuts driver (some ⟨(state, []), false⟩) (driver.shutdown state).1
      (some ⟨((driver.shutdown state).2, [(driver.shutdown state).1]), true⟩)
  | answers (state : δ) (result : Result Unit) :
      Shuts driver (some ⟨(state, [result]), true⟩) (.ok ()) (some ⟨(state, [result]), true⟩)

variable (driver) in
private theorem shutdownDriver_shuts (opened : HostOpenStream ν (Logged δ)) {results : List (Result Unit)}
    (handled : Handled opened.driver results) :
    Shuts driver opened.driver (opened.shutdownDriver driver.logged).1 (opened.shutdownDriver driver.logged).2.driver := by
  obtain ⟨config, queue, handle⟩ := opened
  cases handled with
  | idle state => exact .asks state
  | asked state result => exact .answers state result

section Close
variable (driver) (closes : stream.Closes) {opened : HostOpenStream ν (Logged δ)} {results : List (Result Unit)}
  (handled : Handled opened.driver results)
include closes handled

private theorem close_shuts : Shuts driver opened.driver (opened.close stream driver.logged).1
    (opened.close stream driver.logged).2.driver := by
  have closed : opened.queue.close stream = (.ok (), (opened.queue.close stream).2) :=
    Prod.ext (closes.closePush _) rfl
  rw [close, closed]
  exact shutdownDriver_shuts driver { opened with queue := (opened.queue.close stream).2 } handled

private theorem cancel_shuts : Shuts driver opened.driver (opened.cancel stream driver.logged).1
    (opened.cancel stream driver.logged).2.driver := by
  have canceled : opened.queue.cancel stream = (.ok (), (opened.queue.cancel stream).2) :=
    Prod.ext (closes.cancel _) rfl
  rw [cancel, canceled]
  exact shutdownDriver_shuts driver { opened with queue := (opened.queue.cancel stream).2 } handled

end Close

/-- What one call does to the clones: nothing to the handle, or one shutdown through it. -/
inductive Calls (driver : HostStreamDriver δ) (state : StreamClones ν (Logged δ)) (call : CloneCall) :
    Option (Result Unit) → Option (HostDriverHandle (Logged δ)) → Prop where
  | beside (unknown : ¬ Reaches state call) : Calls driver state call none state.opened.driver
  | shuts {result handle} (reaches : Reaches state call) (shut : Shuts driver state.opened.driver result handle) :
      Calls driver state call (some result) handle

variable (driver) in
private theorem step_calls (closes : stream.Closes) {state : StreamClones ν (Logged δ)} (attached : Attached state)
    (call : CloneCall) :
    Calls driver state call ((StreamClones.machine stream driver.logged).step state call).1
      ((StreamClones.machine stream driver.logged).step state call).2.opened.driver := by
  cases call with
  | clone => exact .beside id
  | close clone =>
    by_cases known : clone < state.clones
    · simp only [StreamClones.machine, if_pos known]
      exact .shuts known (close_shuts driver closes attached)
    · simp only [StreamClones.machine, if_neg known]
      exact .beside known
  | cancel clone =>
    by_cases known : clone < state.clones
    · simp only [StreamClones.machine, if_pos known]
      exact .shuts known (cancel_shuts driver closes attached)
    · simp only [StreamClones.machine, if_neg known]
      exact .beside known

abbrev CloneEvent (ν δ : Type) := Machine.Event (StreamClones ν (Logged δ)) CloneCall (Option (Result Unit))

/-- No shutdown follows one that returned Ok, and an Ok answer follows one. -/
structure DownAfterOk (event : CloneEvent ν δ) : Prop where
  last : ∀ earlier later, outcomes event.after = earlier ++ .ok () :: later → later = []
  down : event.output = some (.ok ()) → .ok () ∈ outcomes event.after

/-- A close or cancel of an existing clone finds no failed shutdown. -/
def NoneFailed (event : CloneEvent ν δ) : Prop :=
  Reaches event.before event.input → ∀ result ∈ outcomes event.before, result = .ok ()

theorem Handled.last {handle : Option (HostDriverHandle (Logged δ))} {results : List (Result Unit)}
    (handled : Handled handle results) (earlier later : List (Result Unit))
    (split : results = earlier ++ .ok () :: later) : later = [] := by
  cases handled with
  | idle => cases List.append_eq_nil_iff.mp split.symm |>.2
  | asked _ result =>
    have length := congrArg List.length split
    simp only [List.length_append, List.length_cons, List.length_nil] at length
    exact List.length_eq_zero_iff.mp (by omega)

theorem Shuts.handled {before after : Option (HostDriverHandle (Logged δ))} {result : Result Unit}
    (shuts : Shuts driver before result after) : Handled after ((after.map (·.driver.2)).getD []) := by
  cases shuts with
  | asks state => exact .asked _ _
  | answers state result => exact .asked _ _

/-- An Ok answer follows a shutdown that returned Ok unless the one shutdown failed before. -/
theorem Shuts.down_iff {before after : Option (HostDriverHandle (Logged δ))} {result : Result Unit}
    (shuts : Shuts driver before result after) :
    (result = .ok () → .ok () ∈ (after.map (·.driver.2)).getD []) ↔
      ∀ earlier ∈ (before.map (·.driver.2)).getD [], earlier = .ok () := by
  cases shuts with
  | asks state => exact iff_of_true (fun down => List.mem_singleton.mpr down.symm) nofun
  | answers state result => simp [eq_comm]

variable (driver) in
private theorem step_attached (closes : stream.Closes) {state : StreamClones ν (Logged δ)} (attached : Attached state)
    (call : CloneCall) : Attached ((StreamClones.machine stream driver.logged).step state call).2 := by
  have calls := step_calls driver closes attached call
  rw [Attached, outcomes]
  generalize ((StreamClones.machine stream driver.logged).step state call).1 = answer at calls
  generalize ((StreamClones.machine stream driver.logged).step state call).2.opened.driver = handle at calls
  cases calls with
  | beside => exact attached
  | shuts _ shut => exact shut.handled

private theorem step_down_iff (closes : stream.Closes) (state : StreamClones ν (Logged δ)) (call : CloneCall)
    (attached : Attached state) :
    DownAfterOk ((StreamClones.machine stream driver.logged).event state call) ↔
      NoneFailed ((StreamClones.machine stream driver.logged).event state call) := by
  have last := (step_attached driver closes attached call).last
  have calls := step_calls driver closes attached call
  have down : DownAfterOk ((StreamClones.machine stream driver.logged).event state call) ↔
      (((StreamClones.machine stream driver.logged).step state call).1 = some (.ok ()) →
        .ok () ∈ outcomes ((StreamClones.machine stream driver.logged).step state call).2) :=
    ⟨DownAfterOk.down, fun down => ⟨last, down⟩⟩
  rw [down, outcomes]
  generalize ((StreamClones.machine stream driver.logged).step state call).1 = answer at calls
  generalize ((StreamClones.machine stream driver.logged).step state call).2.opened.driver = handle at calls
  cases calls with
  | beside unknown => exact iff_of_true nofun fun reaches => absurd reaches unknown
  | shuts reaches shut =>
    rw [Option.some.injEq, shut.down_iff]
    exact ⟨fun none _ => none, fun none => none reaches⟩

/-- In every run over the clones of a stream with an attached driver, Ok answers mean that the
driver is down exactly when no close or cancel follows a failed shutdown. -/
theorem down_after_ok_iff (closes : stream.Closes) (driver : HostStreamDriver δ) (config : HostStreamConfig)
    (queue : HostCallbackQueue ν) (state : δ) (calls : List CloneCall) :
    let opened := StreamClones.first ⟨config, queue, some (.new (state, []))⟩
    (∀ event ∈ (StreamClones.machine stream driver.logged).trace opened calls, DownAfterOk event) ↔
      ∀ event ∈ (StreamClones.machine stream driver.logged).trace opened calls, NoneFailed event := by
  refine Machine.trace_forall_iff _ Attached DownAfterOk NoneFailed (step_down_iff closes)
    (fun current call attached _ => step_attached driver closes attached call) ?_ calls
  exact .idle state

def steadyDriver : HostStreamDriver Unit := ⟨fun state => (.ok (), state)⟩

/-- Fails once, then succeeds. -/
def reluctantDriver : HostStreamDriver Bool :=
  ⟨fun willing => (if willing then .ok () else .error (.hostError "device busy"), true)⟩

def localConfig : HostStreamConfig where
  backend := .qualified "stream/host" "fake"
  device := .new "fake/data"
  media := .data
  direction := .input
  buffer := ⟨8⟩
  clock := ⟨.new "server-frame", none, true⟩
  latency := ⟨0, 0⟩
  reconnect := .disabled

def localQueue : HostCallbackQueue (BoundedItems Unit) := .new (.push (boundedStream Unit) localConfig.metadata)

theorem down_after_ok_iff_for_steady_driver :
    (∀ event ∈ (StreamClones.machine (boundedStream Unit) steadyDriver.logged).trace
        (.first ⟨localConfig, localQueue, some (.new ((), []))⟩) [.clone, .close 0, .cancel 1], DownAfterOk event) ↔
      ∀ event ∈ (StreamClones.machine (boundedStream Unit) steadyDriver.logged).trace
        (.first ⟨localConfig, localQueue, some (.new ((), []))⟩) [.clone, .close 0, .cancel 1], NoneFailed event :=
  down_after_ok_iff (boundedStream_closes Unit) steadyDriver localConfig localQueue () _

/-- The second close answers Ok although the only shutdown failed. -/
theorem failed_shutdown_is_closed_away :
    ¬ ∀ (ν μ δ : Type) (stream : PushStream ν μ) (driver : HostStreamDriver δ) (config : HostStreamConfig)
      (queue : HostCallbackQueue ν) (state : δ) (calls : List CloneCall), stream.Closes →
      ∀ event ∈ (StreamClones.machine stream driver.logged).trace
        (.first ⟨config, queue, some (.new (state, []))⟩) calls, DownAfterOk event := by
  intro always
  have down := always _ _ _ (boundedStream Unit) reluctantDriver localConfig localQueue false [.close 0, .close 0]
    (boundedStream_closes Unit)
  have second := (down _ (List.mem_cons_of_mem _ List.mem_cons_self)).down rfl
  exact absurd second (by decide)

end StreamHost.Proofs.DriverShutdown
