import StreamControl.Proofs.Courses

/-!
# What keeps a controller from being unloaded

An unload is refused for the first stream with which the controller is inside
a cycle.  Such a stream runs, unless a filter has panicked: a start that
breaks off leaves the controllers inside a cycle with a stream that does not
run, and a stop that breaks off leaves them inside one in which a later stop
takes them no further.  `History.Stranded` says when this has happened, in
terms of the episodes of a history, and `unload_blocked` that nothing else
blocks an unload.

The step that carries the proof is that a stream with a stranded controller is
never started again while the controller is loaded (`Course.rests`).
-/

set_option autoImplicit false

namespace StreamControl.Host

open StreamControl.Action Session

variable {σ : Type}

/-! ## What happened in a history -/

/-- Something happened in an episode, given the history before it. -/
def History.Once (history : History σ) (event : History σ → Episode σ → Prop) : Prop :=
  ∃ (earlier : List (Episode σ)) (episode : Episode σ) (later : List (Episode σ)),
    history.episodes = earlier ++ episode :: later ∧ event ⟨earlier, episode.before⟩ episode

/-- A start of a stream broke off while a controller was loaded. -/
def History.StartBroke (history : History σ) (serial : Nat) (stream : StreamId) : Prop :=
  history.Once fun _ episode =>
    episode.brokenStart? = some stream ∧ serial ∈ episode.before.controllers.map (·.serial)

/-- A stop of a stream broke off after a controller had seen its last start. -/
def History.StopBroke (history : History σ) (serial : Nat) (stream : StreamId) : Prop :=
  history.Once fun before episode =>
    episode.BrokeStop stream ∧ before.SawLastStart serial stream

/-- Such a stream came to rest later on. -/
def History.Rested (history : History σ) (serial : Nat) (stream : StreamId) : Prop :=
  history.Once fun before episode => before.StopBroke serial stream ∧
    episode.before.Runs stream ∧ ¬ episode.after.Runs stream

/-- A controller has been left inside a cycle with a stream that is at rest. -/
def History.Stranded (history : History σ) (serial : Nat) (stream : StreamId) : Prop :=
  history.StartBroke serial stream ∨ history.Rested serial stream

/-- A controller is inside a cycle with a stream: it saw the stream start and the
stream runs, or a start or a stop broke off. -/
def History.Holds (history : History σ) (serial : Nat) (stream : StreamId) : Prop :=
  (history.host.Runs stream ∧ history.SawLastStart serial stream) ∨
    history.StartBroke serial stream ∨ history.StopBroke serial stream

section Once

variable (code : UserCode σ) (history : History σ) (operation : Operation σ)
  (event : History σ → Episode σ → Prop)

theorem History.not_once_new (host : Host σ) :
    ¬ History.Once { episodes := [], host } event := by
  rintro ⟨earlier, episode, later, empty, _⟩
  exact List.append_ne_nil_of_right_ne_nil earlier (List.cons_ne_nil episode later) empty.symm

/-- What happened in a longer history happened before or in its last episode. -/
theorem History.once_extend :
    (history.extend code operation).Once event ↔
      history.Once event ∨ event history (Episode.of code operation history.host) := by
  constructor
  · rintro ⟨earlier, episode, later, split, happened⟩
    rcases List.eq_nil_or_concat later with rfl | ⟨between, last, rfl⟩
    · obtain ⟨same, new⟩ := List.append_inj' split rfl
      cases new
      rw [← same] at happened
      exact .inr happened
    · rw [List.concat_eq_append, ← List.cons_append, ← List.append_assoc] at split
      exact .inl ⟨earlier, episode, between, (List.append_inj' split rfl).1, happened⟩
  · rintro (⟨earlier, episode, later, split, happened⟩ | happened)
    · refine ⟨earlier, episode, later ++ [Episode.of code operation history.host], ?_, happened⟩
      rw [History.extend, split, List.append_assoc]
      rfl
    · exact ⟨history.episodes, _, [], rfl, happened⟩

end Once

section Broken

variable {code : UserCode σ} {history : History σ} (reachable : history.Reachable code)
  (serial : Nat) (stream : StreamId)
include reachable

theorem History.startBroke_iff :
    history.past.sawStartBreak serial stream ↔ history.StartBroke serial stream := by
  refine reachable.induction (motive := fun history =>
    history.past.sawStartBreak serial stream ↔ history.StartBroke serial stream) ?_ ?_
  · intro channel config memory
    exact ⟨False.elim, fun broke => History.not_once_new _ _ broke⟩
  · intro history operation _ ih _ _
    rw [History.past_extend, History.StartBroke, History.once_extend, ← History.StartBroke, ← ih]
    exact Iff.rfl

theorem History.stopBroke_iff :
    history.past.sawStopBreak serial stream ↔ history.StopBroke serial stream := by
  refine reachable.induction (motive := fun history =>
    history.past.sawStopBreak serial stream ↔ history.StopBroke serial stream) ?_ ?_
  · intro channel config memory
    exact ⟨False.elim, fun broke => History.not_once_new _ _ broke⟩
  · intro history operation reachable ih _ _
    rw [History.past_extend, History.StopBroke, History.once_extend, ← History.StopBroke, ← ih,
      ← History.saw_iff reachable]
    exact Iff.rfl

/-- A stream that came to rest after a stop of it broke off. -/
theorem History.Rested.stopBroke (rested : history.Rested serial stream) :
    history.StopBroke serial stream := by
  revert rested
  refine reachable.induction (motive := fun history =>
    history.Rested serial stream → history.StopBroke serial stream) ?_ ?_
  · exact fun channel config memory rested => (History.not_once_new _ _ rested).elim
  · intro history operation _ ih _ _ rested
    rw [History.StopBroke, History.once_extend]
    rcases (History.once_extend _ _ _ _).mp rested with earlier | ⟨broke, _⟩
    · exact .inl (ih earlier)
    · exact .inl broke

end Broken

/-! ## Streams that came to rest -/

/-- A stream at rest, a stop of which broke off, stays at rest as long as a
controller that had to see the stop is loaded: the controller cannot begin a
cycle. -/
theorem Course.rests {fresh : FilterGraph → Prop} {past past' : Past} {before after : Host σ}
    (course : Course fresh past before past' after) (sound : Sound past before)
    {serial : Nat} {stream : StreamId} (broke : past.sawStopBreak serial stream)
    (loaded : serial ∈ after.outline.serials) (idle : ¬ before.Runs stream) :
    ¬ after.Runs stream := by
  induction course with
  | refl => exact idle
  | step course turn ih =>
    intro running
    have between := course.sound sound
    have old : serial < before.nextSerial := sound.recent serial stream (.inr (.inr broke))
    have there : serial ∈ Outline.serials _ := (turn.serials.2 serial loaded).resolve_right
      (Nat.not_le_of_lt (Nat.lt_of_lt_of_le old course.serials.1))
    have ready := ((turn.runs between running).resolve_left (ih there)).1
    obtain ⟨controller, member, same⟩ := List.mem_map.mp there
    have fits := (between.stands controller member).fits stream
    exact (fits.outside (ready controller member)).2 (same ▸ course.sawStopBreak broke)

/-- A stream came to rest after a stop of it broke off exactly when it does not
run now. -/
theorem History.rested_iff {code : UserCode σ} {history : History σ}
    (reachable : history.Reachable code) {serial : Nat}
    (loaded : serial ∈ history.host.outline.serials) (stream : StreamId) :
    history.Rested serial stream ↔
      history.StopBroke serial stream ∧ ¬ history.host.Runs stream := by
  revert loaded
  refine reachable.induction (motive := fun history =>
    serial ∈ history.host.outline.serials → (history.Rested serial stream ↔
      history.StopBroke serial stream ∧ ¬ history.host.Runs stream)) ?_ ?_
  · exact fun channel config memory loaded => (List.not_mem_nil loaded).elim
  · intro history operation reachable ih permits ends loaded
    have sound := History.sound reachable
    have follows := History.follows reachable sound permits ends
    have stopBroke := History.stopBroke_iff reachable serial stream
    rw [History.Rested, History.StopBroke, History.once_extend, History.once_extend,
      ← History.StopBroke, ← History.Rested]
    by_cases broke : history.StopBroke serial stream
    · have seen := stopBroke.mpr broke
      have old : serial ∈ history.host.outline.serials :=
        (follows.course.serials.2 serial loaded).resolve_right
          (Nat.not_le_of_lt (sound.recent serial stream (.inr (.inr seen))))
      by_cases running : history.host.Runs stream
      · rw [ih old]
        constructor
        · rintro (⟨_, idle⟩ | ⟨_, _, rested⟩)
          · exact absurd running idle
          · exact ⟨.inl broke, rested⟩
        · exact fun both => .inr ⟨broke, running, both.2⟩
      · have rests := follows.course.rests sound seen loaded running
        exact ⟨fun _ => ⟨.inl broke, rests⟩, fun _ => .inl ((ih old).mpr ⟨broke, running⟩)⟩
    · constructor
      · rintro (rested | ⟨earlier, _⟩)
        · exact absurd (rested.stopBroke reachable) broke
        · exact absurd earlier broke
      · rintro ⟨earlier | ⟨now, _⟩, idle⟩
        · exact absurd earlier broke
        · exact absurd (follows.broken stream now) idle

/-! ## Unloading -/

/-- An unload is refused for the first stream with which the controller is inside
a cycle. -/
theorem Sound.unload_refused_iff {past : Past} {host : Host σ} (sound : Sound past host)
    (code : UserCode σ) {name : String} {controller : LoadedController}
    (loaded : host.controller? name = some controller) (stream : StreamId) :
    (Host.unload code name host).1 = .refused (.streamRunning stream) ↔
      controller.activeStreams.head? = some stream := by
  constructor
  · intro refused
    have meets := meets_unload code name sound.nodup sound.destroyable
    obtain ⟨_, blocked⟩ := meets.of_refused (Prod.ext refused rfl)
    obtain ⟨first, rest, active, same⟩ := blocked controller loaded
    cases same
    rw [active]
    rfl
  · intro first
    obtain ⟨rest, active⟩ := List.head?_eq_some_iff.mp first
    have read : (get : Action (Host σ) (Host σ)) host = (.returned host, host) := rfl
    have found : Host.loaded name host = (.returned controller, host) := by
      rw [Host.loaded, bind_of_returned read, loaded]
      rfl
    rw [Host.unload, bind_of_returned found, active]
    rfl

/-- **What keeps a controller from being unloaded.** An unload is refused for the
least stream that holds the controller inside a cycle.  That stream runs unless
the controller has been stranded with it, by the panic of a filter. -/
theorem unload_blocked {code : UserCode σ} {history : History σ}
    (reachable : history.Reachable code) {name : String} {controller : LoadedController}
    (loaded : history.host.controller? name = some controller) (stream : StreamId) :
    ((unload code name history.host).1 = .refused (.streamRunning stream) →
      (history.host.Runs stream ↔ ¬ history.Stranded controller.serial stream)) ∧
    ((unload code name history.host).1 = .refused (.streamRunning stream) ↔
      history.Holds controller.serial stream ∧
        ∀ other, history.Holds controller.serial other → stream ≤ other) := by
  have sound := History.sound reachable
  have member : controller ∈ history.host.controllers := List.mem_of_find?_eq_some loaded
  have active (other : StreamId) :
      other ∈ controller.activeStreams ↔ history.Holds controller.serial other := by
    rw [LoadedController.mem_activeStreams, ((sound.stands controller member).fits other).active_iff,
      History.saw_iff reachable, History.startBroke_iff reachable, History.stopBroke_iff reachable]
    exact Iff.rfl
  have blocked : (unload code name history.host).1 = .refused (.streamRunning stream) ↔
      history.Holds controller.serial stream ∧
        ∀ other, history.Holds controller.serial other → stream ≤ other := by
    rw [sound.unload_refused_iff code loaded, LoadedController.head?_activeStreams, active]
    simp only [active]
  refine ⟨fun refused => ?_, blocked⟩
  have halted := ((sound.stands controller member).fits stream).halted
  rw [History.startBroke_iff reachable] at halted
  rw [History.Stranded, History.rested_iff reachable (history.host.outline.mem_serials member)]
  constructor
  · rintro running (broke | ⟨_, idle⟩)
    · exact halted broke running
    · exact idle running
  · intro free
    rcases (blocked.mp refused).1 with ⟨running, _⟩ | broke | broke
    · exact running
    · exact absurd (.inl broke) free
    · exact Classical.byContradiction fun idle => free (.inr ⟨broke, idle⟩)

/-- User code whose filters panic when they are started. -/
def panickyCode : UserCode Unit :=
  { idleCode with filter := fun _ function _ =>
      match function with
      | .start => .panic "no signal"
      | _ => .done (.ok ()) }

/-- A host with a controller and a stream whose start has broken off. -/
def strandedHistory : History Unit :=
  .after panickyCode { episodes := [], host := freshHost }
    [.load "mixer" none { code := 0, hooks := [] } [],
      .addStream (FilterGraph.empty.append "source" (some 0)),
      .start ⟨1⟩]

theorem strandedHistory_reachable : strandedHistory.Reachable panickyCode := by
  refine ⟨_, _, _, create_freshHost, History.leads_after _ ⟨⟨⟨?_, nofun⟩, ?_⟩,
    ⟨⟨?_, ?_⟩, ?_⟩, ⟨⟨?_, nofun⟩, ?_⟩, trivial⟩⟩
  case refine_4 =>
    intro graph same
    cases same
    exact .add .new rfl
  all_goals decide +kernel

/-- The controller cannot be unloaded for a stream that does not run. -/
theorem unload_blocked_stranded :
    (unload panickyCode "mixer" strandedHistory.host).1 = .refused (.streamRunning ⟨1⟩) ∧
      ¬ strandedHistory.host.Runs ⟨1⟩ ∧ strandedHistory.Stranded 0 ⟨1⟩ := by
  have refused : (unload panickyCode "mixer" strandedHistory.host).1 =
      .refused (.streamRunning ⟨1⟩) := by
    decide +kernel
  have idle : ¬ strandedHistory.host.Runs ⟨1⟩ := by
    decide +kernel
  have mixer : (strandedHistory.host.controller? "mixer").map (·.serial) = some 0 := by
    decide +kernel
  obtain ⟨controller, loaded, serial⟩ := Option.map_eq_some_iff.mp mixer
  have blocked := (unload_blocked strandedHistory_reachable loaded ⟨1⟩).1 refused
  rw [serial] at blocked
  exact ⟨refused, idle, Classical.byContradiction fun free => idle (blocked.mpr free)⟩

end StreamControl.Host
