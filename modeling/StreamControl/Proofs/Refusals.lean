import StreamControl.Proofs.PhaseCoherence

/-!
# Refusals

Why a host refuses an operation, and what it has done by then.  As long as no
filter has panicked, a start is refused only for a stream that is not attached or
already runs, and so on for the other operations (`Host.Refuses`): steps of
controllers are never refused, since a controller is inside a cycle only with a
stream that runs.  A refusal then comes before anything has been done.

The exception is a controller whose construct hook fails: it has run by then,
and the failure is counted and announced.
-/

set_option autoImplicit false

namespace StreamControl

/-! ## Names that are refused -/

/-- A controller name is refused because it is taken, because it is too long, or
because so are all the names made from it. -/
theorem ControllerName.resolve_error {path : String} {requested : Option String} {limit : Nat}
    {taken : String → Bool} {fault : Fault}
    (refused : ControllerName.resolve path requested limit taken = .error fault) :
    ∃ name, taken name = true ∧ (fault = .controllerExists name ∨ fault = .nameExhausted name) ∨
      limit < name.utf8ByteSize ∧ fault = .nameTooLong name limit := by
  have tooLong {name : String} (refused : checkLength limit name = .error fault) :
      limit < name.utf8ByteSize ∧ fault = .nameTooLong name limit := by
    rw [checkLength] at refused
    split at refused
    · rename_i long
      cases refused
      exact ⟨long, rfl⟩
    · cases refused
  unfold resolve at refused
  split at refused
  · rename_i name _
    split at refused
    · rename_i exists'
      cases refused
      exact ⟨name, .inl ⟨exists', .inl rfl⟩⟩
    · exact ⟨name, .inr (tooLong refused)⟩
  · simp only [bind, Except.bind] at refused
    split at refused
    · rename_i long
      cases refused
      exact ⟨_, .inr (tooLong long)⟩
    · rename_i base _
      split at refused
      · rename_i exists'
        split at refused
        · exact ⟨_, .inr (tooLong refused)⟩
        · cases refused
          exact ⟨base, .inl ⟨exists', .inr rfl⟩⟩
      · cases refused

/-- A session after the failure of a construct hook has been counted and
announced. -/
def Session.rejecting {σ : Type} (name : String) (failure : Int32) (session : Session σ) :
    Session σ :=
  { session with
    channel := (session.channel.send (.constructFailed name failure)).2
    journal := ((session.journal.push (.counted .hookFailures name Hook.construct.name)).push
      (.message .error "construct() failed; controller not loaded")).push
        (.sent (.constructFailed name failure)) }

namespace Host

open StreamControl.Action Session

variable {σ : Type} {past : Past} {host : Host σ}

/-! ## Steps that are not refused -/

/-- As long as no filter has panicked, a controller is inside a cycle only with a
stream that runs. -/
theorem Sound.phase_of_calm (sound : Sound past host) (calm : host.Calm)
    {controller : LoadedController} (member : controller ∈ host.controllers) {stream : StreamId}
    {phase : Phase} (found : controller.streamPhases.find? stream = some phase) :
    phase = .stopped ∨ phase = .started ∧ host.Runs stream := by
  have fits := (sound.stands controller member).fits stream
  obtain ⟨noStart, noStop⟩ := sound.calm calm controller.serial stream
  rcases fits.cyclic phase found with stopped | active
  · exact .inl stopped
  · cases phase with
    | started => exact .inr ⟨rfl, (fits.started.mp found).1⟩
    | preStarted => exact absurd (fits.preStarted.mp found) noStart
    | preStopped => exact absurd (fits.preStopped.mp found) noStop
    | _ => cases active

/-- So every controller can begin a cycle with a stream that does not run. -/
theorem Sound.ready (sound : Sound past host) (calm : host.Calm) {stream : StreamId}
    (idle : ¬ host.Runs stream) : host.ReadyFor stream := by
  intro controller member
  rw [LoadedController.standing]
  cases found : controller.streamPhases.find? stream with
  | none => rfl
  | some phase =>
    rcases sound.phase_of_calm calm member found with rfl | ⟨_, running⟩
    · rfl
    · exact absurd running idle

/-! ## Why operations are refused -/

/-- Why a host refuses an operation other than attaching a stream, and the host
that is left. -/
inductive Refuses (code : UserCode σ) (host : Host σ) : Operation σ → Fault → Host σ → Prop where
  /-- There is no stream to start. -/
  | startUnknown {stream : StreamId} (absent : host.stream? stream = none) :
      Refuses code host (.start stream) (.unknownStream stream) host
  /-- The stream to start runs. -/
  | startRunning {stream : StreamId} (running : host.Runs stream) :
      Refuses code host (.start stream) (.streamRunning stream) host
  /-- There is no stream to stop. -/
  | stopUnknown {stream : StreamId} (absent : host.stream? stream = none) :
      Refuses code host (.stop stream) (.unknownStream stream) host
  /-- The stream to stop does not run. -/
  | stopIdle {stream : StreamId} {graph : FilterGraph} (attached : host.stream? stream = some graph)
      (idle : graph.flow = .idle) :
      Refuses code host (.stop stream) (.streamNotRunning stream) host
  /-- There is no stream to detach. -/
  | removeUnknown {stream : StreamId} (absent : host.stream? stream = none) :
      Refuses code host (.removeStream stream) (.unknownStream stream) host
  /-- The stream to detach runs. -/
  | removeRunning {stream : StreamId} (running : host.Runs stream) :
      Refuses code host (.removeStream stream) (.streamRunning stream) host
  /-- There is no controller to unload. -/
  | unloadUnknown {name : String} (absent : host.controller? name = none) :
      Refuses code host (.unload name) (.unknownController name) host
  /-- The controller to unload is started with a stream that runs. -/
  | unloadRunning {name : String} {stream : StreamId}
      (started : host.controllerStreamPhase name stream = some .started)
      (running : host.Runs stream) :
      Refuses code host (.unload name) (.streamRunning stream) host
  /-- The name asked for is taken. -/
  | loadTaken {path name : String} {requested : Option String} {module : ControllerModule}
      {arguments : List String} (taken : (host.controller? name).isSome = true) :
      Refuses code host (.load path requested module arguments) (.controllerExists name) host
  /-- The name has more bytes than allowed. -/
  | loadTooLong {path name : String} {requested : Option String} {module : ControllerModule}
      {arguments : List String} (long : host.config.maxNameLength < name.utf8ByteSize) :
      Refuses code host (.load path requested module arguments)
        (.nameTooLong name host.config.maxNameLength) host
  /-- Every name made from the path is taken. -/
  | loadExhausted {path name : String} {requested : Option String} {module : ControllerModule}
      {arguments : List String} (taken : (host.controller? name).isSome = true) :
      Refuses code host (.load path requested module arguments) (.nameExhausted name) host
  /-- The construct hook failed.  Besides what it did itself, the failure is counted
  and announced, and a serial number is used up. -/
  | loadRejected {path name : String} {requested : Option String} {module : ControllerModule}
      {arguments : List String} {failure : Int32} {hooked : Session σ}
      (constructs : construct code host.config.spans
        { serial := host.nextSerial, name, path, module } arguments host.session =
          (.returned (.failed failure), hooked)) :
      Refuses code host (.load path requested module arguments) (.constructFailed name failure)
        { host with nextSerial := host.nextSerial + 1, session := hooked.rejecting name failure }

theorem refuses_start (code : UserCode σ) (sound : Sound past host) (calm : host.Calm)
    (stream : StreamId) :
    (start code stream).Meets host (fun _ _ => True) (Refuses code host (.start stream))
      (fun _ _ => True) := by
  rw [start, meets_bind, attached, meets_bind, meets_get]
  cases found : host.stream? stream with
  | none => exact .startUnknown found
  | some graph =>
    dsimp only
    rw [meets_pure]
    cases flow : graph.flow with
    | running => exact .startRunning ⟨graph, found, flow⟩
    | idle =>
      have ready := sound.ready calm (not_runs_of_idle found flow)
      exact (meets_startIdle code sound.nodup ready (sound.knowsSlots stream graph found)).mono
        (fun _ _ _ => trivial) (fun _ _ impossible => impossible.elim) fun _ _ _ => trivial

theorem refuses_stop (code : UserCode σ) (sound : Sound past host) (stream : StreamId) :
    (stop code stream).Meets host (fun _ _ => True) (Refuses code host (.stop stream))
      (fun _ _ => True) := by
  rw [stop, meets_bind, attached, meets_bind, meets_get]
  cases found : host.stream? stream with
  | none => exact .stopUnknown found
  | some graph =>
    dsimp only
    rw [meets_pure]
    cases flow : graph.flow with
    | idle => exact .stopIdle found flow
    | running =>
      exact (meets_stopRunning code sound.nodup (sound.knowsSlots stream graph found)).mono
        (fun _ _ _ => trivial) (fun _ _ impossible => impossible.elim) fun _ _ _ => trivial

theorem refuses_removeStream (code : UserCode σ) (stream : StreamId) :
    (removeStream code stream).Meets host (fun _ _ => True)
      (Refuses code host (.removeStream stream)) (fun _ _ => True) := by
  rw [removeStream, meets_bind, attached, meets_bind, meets_get]
  cases found : host.stream? stream with
  | none => exact .removeUnknown found
  | some graph =>
    dsimp only
    rw [meets_pure]
    cases flow : graph.flow with
    | running => exact .removeRunning ⟨graph, found, flow⟩
    | idle =>
      dsimp only
      rw [meets_bind, meets_modify, meets_bind, onSession, meets_within, meets_changeTree]
      refine (Turns.refl _).next (visits_onSession (Calls.drain code)) fun _ _ turns => ?_
      exact turns.next (visits_onSession (Calls.log _ _)) fun _ _ _ => trivial

theorem refuses_unload (code : UserCode σ) (sound : Sound past host) (calm : host.Calm)
    (name : String) :
    (unload code name).Meets host (fun _ _ => True) (Refuses code host (.unload name))
      (fun _ _ => True) := by
  cases found : host.controller? name with
  | none =>
    rw [unload, meets_bind, Host.loaded, meets_bind, meets_get, found]
    exact .unloadUnknown found
  | some controller =>
    refine (meets_unload code name sound.nodup sound.destroyable).mono (fun _ _ _ => trivial) ?_
      fun _ _ _ => trivial
    rintro fault _ ⟨rfl, active⟩
    obtain ⟨stream, rest, streams, rfl⟩ := active controller found
    have inside : stream ∈ controller.activeStreams := by
      rw [streams]
      exact List.mem_cons_self
    obtain ⟨phase, there, active⟩ := LoadedController.mem_activeStreams.mp inside
    rcases sound.phase_of_calm calm (List.mem_of_find?_eq_some found) there with
      rfl | ⟨rfl, running⟩
    · cases active
    · refine .unloadRunning ?_ running
      rw [controllerStreamPhase, found]
      exact there

theorem refuses_load (code : UserCode σ) (path : String) (requested : Option String)
    (module : ControllerModule) (arguments : List String) :
    (load code path requested module arguments).Meets host (fun _ _ => True)
      (Refuses code host (.load path requested module arguments)) (fun _ _ => True) := by
  rw [load, meets_bind, meets_get, meets_bind, meets_ofExcept]
  split
  · rename_i name _
    rw [meets_bind, takeSerial, meets_bind, meets_get, meets_bind, meets_modify, meets_pure]
    dsimp only
    generalize hcontroller : ({ serial := host.nextSerial, name, path, module } :
      LoadedController) = controller
    have phase : controller.standing none = .unconstructed := by rw [← hcontroller]; rfl
    rw [meets_bind, onSession, meets_within]
    refine ((calls_construct code _ controller arguments host.session).and (meets_run _ _)).mono ?_
      (fun _ _ both => both.1.elim) fun _ _ both => both.1.elim
    rintro status hooked ⟨_, run⟩
    cases status with
    | failed failure =>
      subst hcontroller
      exact .loadRejected run
    | ok =>
      dsimp only
      rw [LoadedController.advance_eq, phase, if_pos (by rfl), meets_bind, meets_ofExcept]
      refine (Turns.refl _).next (visits_onSession
        (Calls.after (Calls.record rfl) fun _ => Calls.emit _)) fun _ _ _ => ?_
      rw [meets_bind, meets_modify]
      refine (Turns.refl _).next (visits_onSession (Calls.log _ _)) fun _ _ turns => ?_
      exact turns.next (visits_onSession (Calls.emit _)) fun _ _ _ => trivial
  · rename_i fault refused
    obtain ⟨name, ⟨taken, rfl | rfl⟩ | ⟨long, rfl⟩⟩ := ControllerName.resolve_error refused
    · exact .loadTaken taken
    · exact .loadExhausted taken
    · exact .loadTooLong long

/-- No operation but attaching a stream is refused for another reason. -/
theorem refuses_perform (code : UserCode σ) (sound : Sound past host) (calm : host.Calm)
    {operation : Operation σ} (other : ∀ graph, operation ≠ .addStream graph) :
    (operation.perform code).Meets host (fun _ _ => True) (Refuses code host operation)
      (fun _ _ => True) := by
  have never {α : Type} {action : Action (Host σ) α} {returns : α → Host σ → Prop}
      {panics : String → Host σ → Prop}
      (meets : action.Meets host returns (fun _ _ => False) panics) :
      action.Meets host (fun _ _ => True) (Refuses code host operation) (fun _ _ => True) :=
    meets.mono (fun _ _ _ => trivial) (fun _ _ impossible => impossible.elim) fun _ _ _ => trivial
  cases operation with
  | addStream graph => exact absurd rfl (other graph)
  | removeStream stream => exact refuses_removeStream code stream
  | load path requested module arguments => exact refuses_load code path requested module arguments
  | unload name => exact refuses_unload code sound calm name
  | start stream => exact refuses_start code sound calm stream
  | stop stream => exact refuses_stop code sound stream
  | shutdown => exact never ((withstands_course code (fun _ => True) sound).meets_shutdown .refl)
  | drop => exact never ((withstands_course code (fun _ => True) sound).meets_drop .refl)
  | help name => exact never (meets_help code name host)
  | outside program => exact never (meets_outside code program host)
  | listen change => exact trivial

/-- **Refused operations change nothing.**  As long as no filter has panicked, an
operation other than attaching a stream is refused only for one of the reasons
given, never for a step of a controller, and unless a construct hook has failed the
host is what it was. -/
theorem refused_unchanged {code : UserCode σ} {history : History σ}
    (reachable : history.Reachable code) (calm : history.host.Calm) {operation : Operation σ}
    (other : ∀ graph, operation ≠ .addStream graph) {fault : Fault}
    (refused : (operation.perform code history.host).1 = .refused fault) :
    Refuses code history.host operation fault (operation.perform code history.host).2 ∧
      (∀ origin target, fault ≠ .invalidTransition origin target) ∧
      ((∀ name failure, fault ≠ .constructFailed name failure) →
        (operation.perform code history.host).2 = history.host) := by
  have run : operation.perform code history.host =
      (.refused fault, (operation.perform code history.host).2) := Prod.ext refused rfl
  have reason := (refuses_perform code (History.sound reachable) calm other).of_refused run
  revert reason
  generalize (operation.perform code history.host).2 = after
  intro reason
  refine ⟨reason, fun origin target impossible => ?_, fun plain => ?_⟩
  · subst impossible
    cases reason
  · cases reason with
    | loadRejected => exact absurd rfl (plain _ _)
    | _ => rfl

/-- A controller that is started with a running stream is not unloaded, and the host
stays what it was. -/
theorem refused_unchanged_late :
    (unload idleCode "early" lateHistory.host).1 = .refused (.streamRunning ⟨1⟩) ∧
      lateHistory.host.Calm ∧ lateHistory.host.Runs ⟨1⟩ ∧
      (unload idleCode "early" lateHistory.host).2 = lateHistory.host := by
  have refused : (unload idleCode "early" lateHistory.host).1 = .refused (.streamRunning ⟨1⟩) := by
    decide +kernel
  have calm : lateHistory.host.Calm := by
    decide +kernel
  have running : lateHistory.host.Runs ⟨1⟩ := by
    decide +kernel
  have other : ∀ graph, (Operation.unload "early" : Operation Unit) ≠ .addStream graph :=
    fun _ => nofun
  obtain ⟨_, _, unchanged⟩ := refused_unchanged lateHistory_reachable calm other refused
  exact ⟨refused, calm, running, unchanged fun _ _ => nofun⟩

end Host

end StreamControl
