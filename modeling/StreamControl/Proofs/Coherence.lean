import StreamControl.Proofs.Operations

/-!
# Phases and streams

Each controller keeps its phase with every stream, and each stream says for
itself whether it runs.  The two are changed at different points of a start
and of a stop, and a panic of a filter can come in between.  `Host.Sound`
says how they hang together after any operation whatever: the phase of a
controller with a stream is determined by whether the stream runs and by what
has been done so far (`Past`), namely the last start of the stream and the
starts and stops that broke off.

Every turn of a host keeps it sound (`Sound.start`, `Sound.breakStart`,
`Sound.stop`, `Sound.breakStop` and so on), and from it follows that a start
is either refused before anything is done or not at all (`Sound.decided`).
-/

set_option autoImplicit false

namespace StreamControl

/-! ## Active streams -/

theorem LoadedController.mem_activeStreams {controller : LoadedController} {stream : StreamId} :
    stream ∈ controller.activeStreams ↔
      ∃ phase, controller.streamPhases.find? stream = some phase ∧ phase.isActive = true := by
  simp only [activeStreams, List.mem_map, List.mem_filter, Prod.exists]
  constructor
  · rintro ⟨other, phase, ⟨member, active⟩, rfl⟩
    exact ⟨phase, OrderedMap.mem_entries_iff.mp member, active⟩
  · rintro ⟨phase, found, active⟩
    exact ⟨stream, phase, ⟨OrderedMap.mem_entries_iff.mpr found, active⟩, rfl⟩

/-- The streams with which a controller is inside a cycle are listed in order. -/
theorem LoadedController.head?_activeStreams {controller : LoadedController} {stream : StreamId} :
    controller.activeStreams.head? = some stream ↔
      stream ∈ controller.activeStreams ∧
        ∀ other ∈ controller.activeStreams, stream ≤ other := by
  have increasing : controller.activeStreams.Pairwise (· < ·) := by
    rw [LoadedController.activeStreams, List.pairwise_map]
    exact controller.streamPhases.increasing.filter _
  cases active : controller.activeStreams with
  | nil => exact ⟨fun none => (nomatch none), fun both => (nomatch both.1)⟩
  | cons first rest =>
    rw [active, List.pairwise_cons] at increasing
    rw [List.head?_cons, Option.some.injEq]
    constructor
    · rintro rfl
      refine ⟨List.mem_cons_self, fun other member => ?_⟩
      rcases List.mem_cons.mp member with rfl | later
      · exact Std.le_refl _
      · exact Std.le_of_lt (increasing.1 other later)
    · rintro ⟨member, least⟩
      rcases List.mem_cons.mp member with rfl | later
      · rfl
      · exact Std.le_antisymm (Std.le_of_lt (increasing.1 stream later))
          (least first List.mem_cons_self)

namespace Host

open StreamControl.Action Session

variable {σ : Type}

/-! ## What has been done -/

/-- A start that a controller saw: the filters of the stream, and those of them
that started. -/
structure Sighting where
  /-- The names of the filters, in stream order. -/
  filters : List String
  /-- The names of those that started. -/
  started : List String
  deriving DecidableEq

/-- What has been done with controllers, told by their serial numbers, and
streams. -/
structure Past where
  /-- The controller was loaded when the stream was last started. -/
  saw : Nat → StreamId → Prop
  /-- The starts of the stream while the controller was loaded. -/
  seen : Nat → StreamId → List Sighting
  /-- The controller was loaded when a start of the stream broke off. -/
  sawStartBreak : Nat → StreamId → Prop
  /-- The controller had seen the last start of the stream when a stop of the
  stream broke off. -/
  sawStopBreak : Nat → StreamId → Prop

namespace Past

/-- Nothing has been done. -/
def nothing : Past := ⟨fun _ _ => False, fun _ _ => [], fun _ _ => False, fun _ _ => False⟩

/-- A stream has been started while these controllers were loaded. -/
def start (past : Past) (serials : List Nat) (stream : StreamId) (sighting : Sighting) : Past :=
  { past with
    saw := fun serial other => if other = stream then serial ∈ serials else past.saw serial other
    seen := fun serial other => if other = stream ∧ serial ∈ serials
      then past.seen serial other ++ [sighting] else past.seen serial other }

/-- A start has broken off while these controllers were loaded. -/
def breakStart (past : Past) (serials : List Nat) (stream : StreamId) : Past :=
  { past with sawStartBreak := fun serial other =>
      past.sawStartBreak serial other ∨ other = stream ∧ serial ∈ serials }

/-- A stop has broken off. -/
def breakStop (past : Past) (stream : StreamId) : Past :=
  { past with sawStopBreak := fun serial other =>
      past.sawStopBreak serial other ∨ other = stream ∧ past.saw serial other }

end Past

/-! ## Sound hosts -/

/-- How the phase of a controller with a stream fits whether the stream runs,
whether the controller saw it start last, and whether a start or a stop of it
broke off. -/
structure Fits (runs saw startBroke stopBroke : Prop) (phase? : Option Phase) : Prop where
  /-- With a stream it has seen, it is stopped or inside a cycle. -/
  cyclic : ∀ phase, phase? = some phase → phase = .stopped ∨ phase.isActive = true
  /-- It is started with a running stream it saw start, unless a stop of it has
  broken off. -/
  started : phase? = some .started ↔ runs ∧ saw ∧ ¬ stopBroke
  /-- It is about to start with a stream whose start broke off. -/
  preStarted : phase? = some .preStarted ↔ startBroke
  /-- It is about to stop with a stream whose stop broke off. -/
  preStopped : phase? = some .preStopped ↔ stopBroke
  /-- A stream whose start broke off does not run. -/
  halted : startBroke → ¬ runs

/-- How the phases of a controller fit what has been done and which streams
run. -/
structure Stands (past : Past) (runs : StreamId → Prop) (controller : LoadedController) :
    Prop where
  /-- Its last step was its construction or one with some stream. -/
  whole : controller.phase = .constructed ∨
    ∃ stream, controller.streamPhases.find? stream = some controller.phase
  /-- Its phase with every stream fits. -/
  fits : ∀ stream, Fits (runs stream) (past.saw controller.serial stream)
    (past.sawStartBreak controller.serial stream) (past.sawStopBreak controller.serial stream)
    (controller.streamPhases.find? stream)

/-- One controller is at least as deep inside the cycles of another. -/
def Leading (earlier later : LoadedController) : Prop :=
  ∀ stream phase, later.streamPhases.find? stream = some phase → phase.isActive = true →
    earlier.streamPhases.find? stream = some phase

/-- How controllers and streams of a host hang together. -/
structure Sound (past : Past) (host : Host σ) : Prop where
  /-- Controllers have different serial numbers. -/
  nodup : host.outline.serials.Nodup
  /-- They are below the next one. -/
  bound : ∀ serial ∈ host.outline.serials, serial < host.nextSerial
  /-- So are those of earlier controllers. -/
  recent : ∀ serial stream, past.saw serial stream ∨ past.sawStartBreak serial stream ∨
    past.sawStopBreak serial stream → serial < host.nextSerial
  /-- The numbers of streams are below the next one. -/
  numbered : ∀ stream graph, host.stream? stream = some graph → stream.number < host.nextStream
  /-- The tree knows the filters of the attached streams. -/
  known : ∀ stream graph, host.stream? stream = some graph → ∀ name ∈ graph.names,
    (host.outline.mark? stream name).isSome = true
  /-- Whatever cycle a controller is inside of, those loaded earlier are at the
  same point of it. -/
  aligned : host.controllers.Pairwise Leading
  /-- The phases of every controller fit. -/
  stands : ∀ controller ∈ host.controllers, Stands past host.Runs controller
  /-- Only a panic of a filter breaks a start or a stop off. -/
  calm : host.Calm → ∀ serial stream,
    ¬ past.sawStartBreak serial stream ∧ ¬ past.sawStopBreak serial stream

variable {past : Past} {host before after : Host σ}

/-! ## What follows for the next operation -/

theorem Sound.knowsSlots (sound : Sound past host) (stream : StreamId) (graph : FilterGraph)
    (found : host.stream? stream = some graph) : host.KnowsSlots stream graph.slots := by
  intro slot member
  refine sound.known stream graph found slot.name ?_
  rw [FilterGraph.names, ← graph.map_name_slots]
  exact List.mem_map_of_mem member

/-- With an idle stream, either every controller can begin a cycle or the first
one cannot. -/
theorem Sound.decided (sound : Sound past host) (stream : StreamId) (graph : FilterGraph)
    (found : host.stream? stream = some graph) (idle : graph.flow = .idle) :
    host.ReadyFor stream ∨ host.BlockedFor stream := by
  have still := not_runs_of_idle found idle
  by_cases inside : ∃ controller ∈ host.controllers, ∃ phase,
      controller.streamPhases.find? stream = some phase ∧ phase.isActive = true
  · obtain ⟨controller, member, phase, standing, active⟩ := inside
    refine .inr ?_
    have away : phase ≠ .started := by
      rintro rfl
      exact still (((sound.stands controller member).fits stream).started.mp standing).1
    cases controllers : host.controllers with
    | nil =>
      rw [controllers] at member
      cases member
    | cons first rest =>
      have same : first.streamPhases.find? stream = some phase := by
        rw [controllers] at member
        rcases List.mem_cons.mp member with rfl | later
        · exact standing
        · have leads := sound.aligned
          rw [controllers, List.pairwise_cons] at leads
          exact leads.1 controller later stream phase standing active
      refine ⟨first, by rw [controllers]; rfl, ?_⟩
      rw [LoadedController.standing, same, Option.getD_some]
      cases phase <;> first | rfl | cases active
  · refine .inl fun controller member => ?_
    rw [LoadedController.standing]
    cases standing : controller.streamPhases.find? stream with
    | none => rfl
    | some phase =>
      rcases ((sound.stands controller member).fits stream).cyclic phase standing with rfl | active
      · rfl
      · exact absurd ⟨controller, member, phase, standing, active⟩ inside

/-- A controller that is inside no cycle can be destroyed. -/
theorem Sound.destroyable (sound : Sound past host) (controller : LoadedController)
    (member : controller ∈ host.controllers) (outside : controller.activeStreams = []) :
    controller.phase.canBecome .destroyed = true := by
  have stands := sound.stands controller member
  rcases stands.whole with constructed | ⟨stream, found⟩
  · rw [constructed]
    rfl
  · rcases (stands.fits stream).cyclic _ found with stopped | active
    · rw [stopped]
      rfl
    · have inside := LoadedController.mem_activeStreams.mpr ⟨_, found, active⟩
      rw [outside] at inside
      cases inside

/-! ## Panics -/

/-- A panic of a filter is noted. -/
theorem not_calm_of_mem {visits : List Visit} (wrote : Wrote visits before.session after.session)
    {function : FilterFunction} {stream : StreamId} {filter : String}
    (member : .filter function stream filter .panicked ∈ visits) : ¬ after.Calm := by
  obtain ⟨entries, written, shown⟩ := wrote.written
  rw [← shown, List.mem_filterMap] at member
  obtain ⟨entry, present, shows⟩ := member
  have noted : entry = .left (.filter function stream filter) .panicked := by
    cases entry with
    | entered call => cases call <;> cases shows
    | left call exit =>
      cases call <;> cases shows
      rfl
    | _ => cases shows
  intro calm
  have quiet := calm entry (by rw [written]; exact List.mem_append_right _ present)
  rw [noted] at quiet
  cases quiet

/-- A host that is calm has always been. -/
theorem calm_of_wrote {visits : List Visit} (wrote : Wrote visits before.session after.session)
    (calm : after.Calm) : before.Calm := by
  obtain ⟨entries, written, _⟩ := wrote.written
  intro entry member
  exact calm entry (by rw [written]; exact List.mem_append_left _ member)

theorem BreaksStart.not_calm {stream : StreamId} {graph : FilterGraph}
    (breaks : BreaksStart stream graph before after) : ¬ after.Calm := by
  obtain ⟨results, slot, rest, _, turns⟩ := breaks.turns
  have member : Visit.filter .start stream slot.name .panicked ∈
      brokenStartCalls stream graph before.controllers results slot :=
    List.mem_append_right _ (List.mem_append_right _ (List.mem_singleton.mpr rfl))
  exact not_calm_of_mem turns.wrote member

theorem BreaksStop.not_calm {stream : StreamId} {graph : FilterGraph}
    (breaks : BreaksStop stream graph before after) : ¬ after.Calm := by
  obtain ⟨results, slot, rest, _, turns⟩ := breaks.turns
  have member : Visit.filter .stop stream slot.name .panicked ∈
      brokenStopCalls stream (runningSlots graph) (before.witnesses stream) results slot :=
    List.mem_append_right _ (List.mem_append_right _ (List.mem_singleton.mpr rfl))
  exact not_calm_of_mem turns.wrote member

/-! ## Which controllers lead -/

theorem Leading.moved {earlier later : LoadedController} (leading : Leading earlier later)
    (stream : StreamId) (target : Phase) :
    Leading (earlier.moved (some stream) target) (later.moved (some stream) target) := by
  intro other phase found active
  rw [LoadedController.find?_moved] at found ⊢
  by_cases here : other = stream
  · rwa [if_pos here] at found ⊢
  · rw [if_neg here] at found ⊢
    exact leading other phase found active

theorem aligned_step_all {outline : Outline} (aligned : outline.controllers.Pairwise Leading)
    (stream : StreamId) (target : Phase) :
    (outline.step outline.serials (some stream) target).controllers.Pairwise Leading := by
  rw [Outline.step, List.pairwise_map]
  refine aligned.imp_of_mem fun {earlier later} first second leading => ?_
  rw [if_pos (outline.mem_serials first), if_pos (outline.mem_serials second)]
  exact leading.moved stream target

/-- The controllers that are started with a stream take the step that follows. -/
theorem aligned_step_started {outline : Outline} {serials : List Nat} {stream : StreamId}
    {target : Phase} (aligned : outline.controllers.Pairwise Leading)
    (chosen : ∀ controller ∈ outline.controllers, controller.serial ∈ serials ↔
      controller.streamPhases.find? stream = some .started) :
    (outline.step serials (some stream) target).controllers.Pairwise Leading := by
  rw [Outline.step, List.pairwise_map]
  refine aligned.imp_of_mem fun {earlier later} first second leading => ?_
  by_cases follows : later.serial ∈ serials
  · have started := leading stream .started ((chosen later second).mp follows) rfl
    rw [if_pos follows, if_pos ((chosen earlier first).mpr started)]
    exact leading.moved stream target
  · rw [if_neg follows]
    by_cases moves : earlier.serial ∈ serials
    · rw [if_pos moves]
      intro other phase found active
      have same := leading other phase found active
      by_cases here : other = stream
      · subst here
        rw [(chosen earlier first).mp moves, Option.some.injEq] at same
        exact absurd ((chosen later second).mpr (same ▸ found)) follows
      · rw [LoadedController.find?_moved, if_neg here, same]
    · rw [if_neg moves]
      exact leading

/-! ## Turns that keep a host sound -/

theorem names_of_map {stream : StreamId} {change : FilterGraph → FilterGraph}
    (found : after.stream? stream = (before.stream? stream).map change)
    (names : ∀ graph, (change graph).names = graph.names) {graph : FilterGraph}
    (attached : after.stream? stream = some graph) :
    ∃ old, before.stream? stream = some old ∧ graph.names = old.names := by
  rw [found, Option.map_eq_some_iff] at attached
  obtain ⟨old, present, rfl⟩ := attached
  exact ⟨old, present, names old⟩

theorem serials_of_step {serials : List Nat} {stream? : Option StreamId} {target : Phase}
    (controllers : after.controllers = (before.outline.step serials stream? target).controllers) :
    after.outline.serials = before.outline.serials :=
  (congrArg (List.map _) controllers).trans (before.outline.serials_step serials stream? target)

/-- What has to be looked at after a turn that neither attaches nor loads: the
phases, and what of the past is new. -/
theorem Sound.turned {past' : Past} {visits : List Visit} {outline : Outline}
    (sound : Sound past before) (turns : Turns visits outline before after)
    (serials : after.outline.serials.Sublist before.outline.serials)
    (streams : ∀ stream graph, after.stream? stream = some graph →
      ∃ old, before.stream? stream = some old ∧ graph.names = old.names)
    (recent : ∀ serial stream, past'.saw serial stream ∨ past'.sawStartBreak serial stream ∨
      past'.sawStopBreak serial stream → serial ∈ before.outline.serials ∨
      past.saw serial stream ∨ past.sawStartBreak serial stream ∨ past.sawStopBreak serial stream)
    (aligned : after.controllers.Pairwise Leading)
    (stands : ∀ controller ∈ after.controllers, Stands past' after.Runs controller)
    (calm : after.Calm → ∀ serial stream,
      ¬ past'.sawStartBreak serial stream ∧ ¬ past'.sawStopBreak serial stream) :
    Sound past' after where
  nodup := sound.nodup.sublist serials
  bound serial member := by
    rw [turns.nextSerial]
    exact sound.bound serial (serials.subset member)
  recent serial stream happened := by
    rw [turns.nextSerial]
    rcases recent serial stream happened with member | earlier
    · exact sound.bound serial member
    · exact sound.recent serial stream earlier
  numbered stream graph attached := by
    obtain ⟨old, present, _⟩ := streams stream graph attached
    rw [turns.nextStream]
    exact sound.numbered stream old present
  known stream graph attached name member := by
    obtain ⟨old, present, names⟩ := streams stream graph attached
    rw [names] at member
    exact (turns.tree.filters stream name).trans (sound.known stream old present name member)
  aligned := aligned
  stands := stands
  calm := calm

theorem Sound.quiet {visits : List Visit} (sound : Sound past before)
    (turns : Turns visits before.outline before after) : Sound past after := by
  have controllers : after.controllers = before.controllers :=
    congrArg Outline.controllers turns.shape
  have streams : after.streams = before.streams := congrArg Outline.streams turns.shape
  have serials : after.outline.serials = before.outline.serials :=
    congrArg Outline.serials turns.shape
  refine sound.turned turns (serials ▸ .refl _) ?_ (fun _ _ => .inr) ?_ ?_
    fun calm => sound.calm (calm_of_wrote turns.wrote calm)
  · intro stream graph attached
    rw [Host.stream?, streams] at attached
    exact ⟨graph, attached, rfl⟩
  · rw [controllers]
    exact sound.aligned
  · rw [controllers, runs_of_streams streams]
    exact sound.stands

theorem Sound.aside (sound : Sound past before) (shape : after.outline = before.outline)
    (journal : after.session.journal = before.session.journal)
    (nextStream : after.nextStream = before.nextStream)
    (nextSerial : after.nextSerial = before.nextSerial) : Sound past after := by
  have controllers : after.controllers = before.controllers := congrArg Outline.controllers shape
  have streams : after.streams = before.streams := congrArg Outline.streams shape
  have attached (stream : StreamId) : after.stream? stream = before.stream? stream :=
    congrArg (·.find? stream) streams
  refine
    { nodup := shape ▸ sound.nodup, bound := ?_, recent := ?_, numbered := ?_, known := ?_,
      aligned := controllers ▸ sound.aligned, stands := ?_, calm := ?_ }
  · rw [shape, nextSerial]
    exact sound.bound
  · rw [nextSerial]
    exact sound.recent
  · intro stream graph found
    rw [nextStream]
    exact sound.numbered stream graph ((attached stream).symm.trans found)
  · intro stream graph found
    rw [shape]
    exact sound.known stream graph ((attached stream).symm.trans found)
  · rw [controllers, runs_of_streams streams]
    exact sound.stands
  · intro calm
    exact sound.calm fun entry member => calm entry (journal ▸ member)

/-! ## Starts and stops -/

section Fits

variable {runs saw startBroke stopBroke : Prop} {phase? : Option Phase}

/-- A controller that can begin a cycle is inside none. -/
theorem Fits.outside (fits : Fits runs saw startBroke stopBroke phase?)
    (ready : (phase?.getD .constructed).canBecome .preStarted = true) :
    ¬ startBroke ∧ ¬ stopBroke := by
  constructor
  · intro broke
    rw [fits.preStarted.mpr broke] at ready
    cases ready
  · intro broke
    rw [fits.preStopped.mpr broke] at ready
    cases ready

theorem Fits.start (fits : Fits runs saw startBroke stopBroke phase?)
    (ready : (phase?.getD .constructed).canBecome .preStarted = true) :
    Fits True True startBroke stopBroke (some .started) := by
  obtain ⟨noStart, noStop⟩ := fits.outside ready
  exact
    { cyclic := fun phase same => .inr (by cases same; rfl)
      started := ⟨fun _ => ⟨trivial, trivial, noStop⟩, fun _ => rfl⟩
      preStarted := ⟨fun h => (nomatch h), fun broke => absurd broke noStart⟩
      preStopped := ⟨fun h => (nomatch h), fun broke => absurd broke noStop⟩
      halted := fun broke => absurd broke noStart }

theorem Fits.breakStart (fits : Fits runs saw startBroke stopBroke phase?) (idle : ¬ runs)
    (ready : (phase?.getD .constructed).canBecome .preStarted = true) :
    Fits runs saw True stopBroke (some .preStarted) := by
  obtain ⟨_, noStop⟩ := fits.outside ready
  exact
    { cyclic := fun phase same => .inr (by cases same; rfl)
      started := ⟨fun h => (nomatch h), fun both => absurd both.1 idle⟩
      preStarted := ⟨fun _ => trivial, fun _ => rfl⟩
      preStopped := ⟨fun h => (nomatch h), fun broke => absurd broke noStop⟩
      halted := fun _ => idle }

theorem Fits.stop (fits : Fits runs saw startBroke stopBroke (some .started)) :
    Fits False saw startBroke stopBroke (some .stopped) where
  cyclic phase same := .inl (by cases same; rfl)
  started := ⟨fun h => (nomatch h), fun both => both.1.elim⟩
  preStarted := ⟨fun h => (nomatch h), fun broke => nomatch fits.preStarted.mpr broke⟩
  preStopped := ⟨fun h => (nomatch h), fun broke => nomatch fits.preStopped.mpr broke⟩
  halted _ := id

/-- A controller that takes no part in a stop. -/
theorem Fits.stopped_without (fits : Fits runs saw startBroke stopBroke phase?)
    (other : phase? ≠ some .started) : Fits False saw startBroke stopBroke phase? where
  cyclic := fits.cyclic
  started := ⟨fun started => absurd started other, fun both => both.1.elim⟩
  preStarted := fits.preStarted
  preStopped := fits.preStopped
  halted _ := id

theorem Fits.breakStop (fits : Fits runs saw startBroke stopBroke (some .started)) :
    Fits runs saw startBroke True (some .preStopped) where
  cyclic phase same := .inr (by cases same; rfl)
  started := ⟨fun h => (nomatch h), fun both => (both.2.2 trivial).elim⟩
  preStarted := ⟨fun h => (nomatch h), fun broke => nomatch fits.preStarted.mpr broke⟩
  preStopped := ⟨fun _ => trivial, fun _ => rfl⟩
  halted := fits.halted

/-- A controller is inside a cycle with a stream exactly when it saw it start and
it runs, or something broke off. -/
theorem Fits.active_iff (fits : Fits runs saw startBroke stopBroke phase?) :
    (∃ phase, phase? = some phase ∧ phase.isActive = true) ↔
      (runs ∧ saw) ∨ startBroke ∨ stopBroke := by
  constructor
  · rintro ⟨phase, rfl, active⟩
    cases phase with
    | preStarted => exact .inr (.inl (fits.preStarted.mp rfl))
    | started =>
      obtain ⟨running, seen, _⟩ := fits.started.mp rfl
      exact .inl ⟨running, seen⟩
    | preStopped => exact .inr (.inr (fits.preStopped.mp rfl))
    | _ => cases active
  · intro inside
    by_cases broke : stopBroke
    · exact ⟨_, fits.preStopped.mpr broke, rfl⟩
    · rcases inside with ⟨running, seen⟩ | startBroke | stopBroke
      · exact ⟨_, fits.started.mpr ⟨running, seen, broke⟩, rfl⟩
      · exact ⟨_, fits.preStarted.mpr startBroke, rfl⟩
      · exact absurd stopBroke broke

end Fits

/-- After a step that some controllers take with a stream, it is enough to look
at that stream; with the others nothing has changed. -/
theorem Sound.stands_step {past' : Past} {serials : List Nat} {stream : StreamId} {target : Phase}
    (sound : Sound past before)
    (controllers : after.controllers =
      (before.outline.step serials (some stream) target).controllers)
    (elsewhere : ∀ serial other phase?, other ≠ stream →
      Fits (before.Runs other) (past.saw serial other) (past.sawStartBreak serial other)
        (past.sawStopBreak serial other) phase? →
      Fits (after.Runs other) (past'.saw serial other) (past'.sawStartBreak serial other)
        (past'.sawStopBreak serial other) phase?)
    (moved : ∀ controller ∈ before.controllers, controller.serial ∈ serials →
      Fits (after.Runs stream) (past'.saw controller.serial stream)
        (past'.sawStartBreak controller.serial stream)
        (past'.sawStopBreak controller.serial stream) (some target))
    (still : ∀ controller ∈ before.controllers, controller.serial ∉ serials →
      Fits (after.Runs stream) (past'.saw controller.serial stream)
        (past'.sawStartBreak controller.serial stream)
        (past'.sawStopBreak controller.serial stream) (controller.streamPhases.find? stream)) :
    ∀ controller ∈ after.controllers, Stands past' after.Runs controller := by
  intro controller member
  rw [controllers, Outline.mem_step] at member
  obtain ⟨old, present, rfl⟩ := member
  have stands := sound.stands old present
  by_cases chosen : old.serial ∈ serials
  · rw [if_pos chosen]
    refine ⟨.inr ⟨stream, by rw [LoadedController.find?_moved, if_pos rfl]; rfl⟩, fun other => ?_⟩
    rw [LoadedController.find?_moved, LoadedController.serial_moved]
    by_cases here : other = stream
    · subst here
      rw [if_pos rfl]
      exact moved old present chosen
    · rw [if_neg here]
      exact elsewhere old.serial other _ here (stands.fits other)
  · rw [if_neg chosen]
    refine ⟨stands.whole, fun other => ?_⟩
    by_cases here : other = stream
    · subst here
      exact still old present chosen
    · exact elsewhere old.serial other _ here (stands.fits other)

theorem Sound.start {stream : StreamId} {graph : FilterGraph} {report : StartReport}
    {results : List (FilterSlot × StartResult)} (sound : Sound past before)
    (found : before.stream? stream = some graph)
    (starts : Starts stream graph report results before after) (sighting : Sighting) :
    Sound (past.start before.outline.serials stream sighting) after := by
  refine sound.turned starts.turns ?_ ?_ ?_ ?_ ?_ ?_
  · exact serials_of_step starts.controllers ▸ List.Sublist.refl _
  · intro other graph attached
    refine names_of_map (starts.stream? other) (fun graph => ?_) attached
    split
    · exact graph.names_settled results
    · rfl
  · rintro serial other (saw | broke)
    · dsimp only [Past.start] at saw
      split at saw
      · exact .inl saw
      · exact .inr (.inl saw)
    · exact .inr (.inr broke)
  · rw [starts.controllers]
    exact aligned_step_all sound.aligned stream .started
  · refine sound.stands_step starts.controllers ?_ ?_ ?_
    · intro serial other phase? away fits
      rw [starts.runs found]
      simp only [Past.start, away, if_false, false_or]
      exact fits
    · intro controller member there
      rw [starts.runs found]
      simp only [Past.start, if_pos, true_or, there]
      exact ((sound.stands controller member).fits stream).start (starts.ready controller member)
    · exact fun controller member absent => absurd (before.outline.mem_serials member) absent
  · exact fun calm => sound.calm (calm_of_wrote starts.turns.wrote calm)

theorem Sound.breakStart {stream : StreamId} {graph : FilterGraph} (sound : Sound past before)
    (found : before.stream? stream = some graph) (idle : graph.flow = .idle)
    (breaks : BreaksStart stream graph before after) :
    Sound (past.breakStart before.outline.serials stream) after := by
  obtain ⟨results, slot, rest, _, turns⟩ := breaks.turns
  obtain ⟨changes, streams⟩ := breaks.stream?
  refine sound.turned turns ?_ ?_ ?_ ?_ ?_ ?_
  · exact serials_of_step breaks.controllers ▸ List.Sublist.refl _
  · intro other graph attached
    refine names_of_map (streams other) (fun graph => ?_) attached
    split
    · exact graph.names_settled changes
    · rfl
  · rintro serial other (saw | (broke | ⟨_, member⟩) | broke)
    · exact .inr (.inl saw)
    · exact .inr (.inr (.inl broke))
    · exact .inl member
    · exact .inr (.inr (.inr broke))
  · rw [breaks.controllers]
    exact aligned_step_all sound.aligned stream .preStarted
  · refine sound.stands_step breaks.controllers ?_ ?_ ?_
    · intro serial other phase? away fits
      rw [breaks.runs]
      simp only [Past.breakStart, away, false_and, or_false]
      exact fits
    · intro controller member there
      rw [breaks.runs]
      simp only [Past.breakStart, true_and, there, or_true]
      exact ((sound.stands controller member).fits stream).breakStart (not_runs_of_idle found idle)
        (breaks.ready controller member)
    · exact fun controller member absent => absurd (before.outline.mem_serials member) absent
  · exact fun calm => absurd calm breaks.not_calm

theorem Sound.stop {stream : StreamId} {graph : FilterGraph} (sound : Sound past before)
    (stops : Stops stream graph before after) : Sound past after := by
  obtain ⟨results, _, turns⟩ := stops.turns
  have chosen (controller : LoadedController) (member : controller ∈ before.controllers) :=
    find?_of_mem_witnesses sound.nodup stream member
  refine sound.turned turns ?_ ?_ (fun _ _ => .inr) ?_ ?_
    fun calm => sound.calm (calm_of_wrote turns.wrote calm)
  · exact serials_of_step stops.controllers ▸ List.Sublist.refl _
  · intro other graph attached
    refine names_of_map (stops.stream? other) (fun graph => ?_) attached
    split
    · exact graph.names_halted _
    · rfl
  · rw [stops.controllers]
    exact aligned_step_started sound.aligned chosen
  · have idle : after.Runs stream ↔ False := by
      rw [stops.runs]
      simp only [ne_eq, not_true_eq_false, and_false]
    refine sound.stands_step stops.controllers ?_ ?_ ?_
    · intro serial other phase? away fits
      rw [stops.runs]
      simp only [ne_eq, away, not_false_eq_true, and_true]
      exact fits
    · intro controller member witness
      have fits := (sound.stands controller member).fits stream
      rw [(chosen controller member).mp witness] at fits
      rw [idle]
      exact fits.stop
    · intro controller member absent
      rw [idle]
      exact ((sound.stands controller member).fits stream).stopped_without
        fun started => absent ((chosen controller member).mpr started)

theorem Sound.breakStop {stream : StreamId} {graph : FilterGraph} (sound : Sound past before)
    (runs : before.Runs stream) (breaks : BreaksStop stream graph before after) :
    Sound (past.breakStop stream) after := by
  obtain ⟨results, slot, rest, _, turns⟩ := breaks.turns
  obtain ⟨changes, streams⟩ := breaks.stream?
  have chosen (controller : LoadedController) (member : controller ∈ before.controllers) :=
    find?_of_mem_witnesses sound.nodup stream member
  refine sound.turned turns ?_ ?_ ?_ ?_ ?_ ?_
  · exact serials_of_step breaks.controllers ▸ List.Sublist.refl _
  · intro other graph attached
    refine names_of_map (streams other) (fun graph => ?_) attached
    split
    · exact graph.names_halted changes
    · rfl
  · rintro serial other (saw | broke | (broke | ⟨rfl, saw⟩))
    · exact .inr (.inl saw)
    · exact .inr (.inr (.inl broke))
    · exact .inr (.inr (.inr broke))
    · exact .inr (.inl saw)
  · rw [breaks.controllers]
    exact aligned_step_started sound.aligned chosen
  · refine sound.stands_step breaks.controllers ?_ ?_ ?_
    · intro serial other phase? away fits
      rw [breaks.runs]
      simp only [Past.breakStop, away, false_and, or_false]
      exact fits
    · intro controller member witness
      have fits := (sound.stands controller member).fits stream
      rw [(chosen controller member).mp witness] at fits
      have broke : (past.breakStop stream).sawStopBreak controller.serial stream :=
        .inr ⟨rfl, (fits.started.mp rfl).2.1⟩
      rw [breaks.runs, eq_true broke]
      exact fits.breakStop
    · intro controller member absent
      have fits := (sound.stands controller member).fits stream
      -- A loaded controller that takes no part did not see the start, or has
      -- been left behind by an earlier stop.
      have same : (past.breakStop stream).sawStopBreak controller.serial stream ↔
          past.sawStopBreak controller.serial stream := by
        refine ⟨?_, .inl⟩
        rintro (broke | ⟨_, saw⟩)
        · exact broke
        · exact Classical.byContradiction fun none =>
            absent ((chosen controller member).mpr (fits.started.mpr ⟨runs, saw, none⟩))
      rw [breaks.runs, propext same]
      exact fits
  · exact fun calm => absurd calm breaks.not_calm

/-! ## Loading and unloading -/

theorem Sound.takeSerial (sound : Sound past host) :
    Sound past { host with nextSerial := host.nextSerial + 1 } where
  nodup := sound.nodup
  bound serial member := Nat.lt_succ_of_lt (sound.bound serial member)
  recent serial stream happened := Nat.lt_succ_of_lt (sound.recent serial stream happened)
  numbered := sound.numbered
  known := sound.known
  aligned := sound.aligned
  stands := sound.stands
  calm := sound.calm

/-- A controller that has just been loaded has seen nothing. -/
theorem Sound.stands_new (sound : Sound past host) {controller : LoadedController}
    (serial : controller.serial = host.nextSerial) (phase : controller.phase = .constructed)
    (empty : controller.streamPhases = .empty) : Stands past host.Runs controller where
  whole := .inl phase
  fits stream := by
    have unseen : ¬ past.saw controller.serial stream ∧
        ¬ past.sawStartBreak controller.serial stream ∧
        ¬ past.sawStopBreak controller.serial stream := by
      have none := sound.recent controller.serial stream
      rw [serial] at none ⊢
      exact ⟨fun h => Nat.lt_irrefl _ (none (.inl h)), fun h => Nat.lt_irrefl _ (none (.inr (.inl h))),
        fun h => Nat.lt_irrefl _ (none (.inr (.inr h)))⟩
    obtain ⟨noSight, noStart, noStop⟩ := unseen
    rw [empty, OrderedMap.find?_empty]
    exact
      { cyclic := fun phase same => nomatch same
        started := ⟨fun h => (nomatch h), fun all => absurd all.2.1 noSight⟩
        preStarted := ⟨fun h => (nomatch h), fun broke => absurd broke noStart⟩
        preStopped := ⟨fun h => (nomatch h), fun broke => absurd broke noStop⟩
        halted := fun broke => absurd broke noStart }

theorem Sound.load {controller : LoadedController} (sound : Sound past before)
    (loads : Loads controller before after) : Sound past after := by
  have controllers : after.controllers = before.controllers ++ [controller] :=
    congrArg Outline.controllers loads.turns.shape
  have streams : after.streams = before.streams := congrArg Outline.streams loads.turns.shape
  have serials : after.outline.serials = before.outline.serials ++ [before.nextSerial] := by
    rw [Outline.serials, show after.outline.controllers = _ from controllers, List.map_append,
      List.map_singleton, loads.serial]
    rfl
  refine
    { nodup := ?_, bound := ?_, recent := ?_, numbered := ?_, known := ?_, aligned := ?_,
      stands := ?_, calm := fun calm => sound.calm (calm_of_wrote loads.turns.wrote calm) }
  · rw [serials]
    refine List.nodup_append.mpr ⟨sound.nodup, List.pairwise_singleton _ _, ?_⟩
    rintro serial member other new rfl
    rw [List.mem_singleton] at new
    exact Nat.lt_irrefl _ (new ▸ sound.bound serial member)
  · intro serial member
    rw [serials] at member
    rw [loads.turns.nextSerial]
    rcases List.mem_append.mp member with old | new
    · exact Nat.lt_succ_of_lt (sound.bound serial old)
    · rw [List.mem_singleton.mp new]
      exact Nat.lt_succ_self _
  · intro serial stream happened
    rw [loads.turns.nextSerial]
    exact Nat.lt_succ_of_lt (sound.recent serial stream happened)
  · intro stream graph attached
    rw [Host.stream?, streams] at attached
    rw [loads.turns.nextStream]
    exact sound.numbered stream graph attached
  · intro stream graph attached name member
    rw [Host.stream?, streams] at attached
    exact (loads.turns.tree.filters stream name).trans (sound.known stream graph attached name member)
  · rw [controllers, List.pairwise_append]
    refine ⟨sound.aligned, List.pairwise_singleton _ _, fun earlier _ later new => ?_⟩
    intro stream phase found _
    rw [List.mem_singleton.mp new, loads.streamPhases] at found
    cases found
  · intro other member
    rw [controllers] at member
    rw [runs_of_streams streams]
    rcases List.mem_append.mp member with old | new
    · exact sound.stands other old
    · rw [List.mem_singleton.mp new]
      exact sound.stands_new loads.serial loads.phase loads.streamPhases

theorem Sound.unload {serial : Nat} {visits : List Visit} (sound : Sound past before)
    (turns : Turns visits (before.outline.unloaded serial) before after) : Sound past after := by
  have controllers : after.controllers = before.controllers.filter (·.serial ≠ serial) :=
    congrArg Outline.controllers turns.shape
  have streams : after.streams = before.streams := congrArg Outline.streams turns.shape
  refine sound.turned turns ?_ ?_ (fun _ _ => .inr) ?_ ?_
    fun calm => sound.calm (calm_of_wrote turns.wrote calm)
  · rw [turns.shape]
    exact List.filter_sublist.map _
  · intro stream graph attached
    rw [Host.stream?, streams] at attached
    exact ⟨graph, attached, rfl⟩
  · rw [controllers]
    exact sound.aligned.filter _
  · intro controller member
    rw [controllers] at member
    rw [runs_of_streams streams]
    exact sound.stands controller (List.mem_filter.mp member).1

/-! ## Attaching and detaching -/

/-- A number that is used up is below the next. -/
theorem Numbers.lt {stream : StreamId} {visits : List Visit} {outline : Outline}
    (numbers : Numbers stream visits outline before after) :
    before.nextStream < after.nextStream := by
  rw [numbers.nextStream]
  refine UInt32.lt_add_one fun last => numbers.room ?_
  rw [last]
  decide

/-- A stream that gets the next number was not attached before. -/
theorem Sound.unattached (sound : Sound past before) {stream : StreamId}
    (number : stream.number = before.nextStream) : before.stream? stream = none := by
  cases found : before.stream? stream with
  | none => rfl
  | some graph =>
    have below := sound.numbered stream graph found
    rw [number] at below
    exact absurd below (UInt32.lt_irrefl _)

/-- What runs does not change when a stream that does not run is replaced by one
that does not either. -/
theorem runs_of_replaced {stream : StreamId} {graph? : Option FilterGraph}
    (streams : ∀ other, after.stream? other =
      if other = stream then graph? else before.stream? other)
    (still : ¬ before.Runs stream) (fresh : ∀ graph, graph? = some graph → graph.flow = .idle) :
    after.Runs = before.Runs := by
  funext other
  refine propext ?_
  by_cases here : other = stream
  · subst here
    refine ⟨?_, fun running => absurd running still⟩
    rintro ⟨graph, attached, running⟩
    rw [streams, if_pos rfl] at attached
    rw [fresh graph attached] at running
    cases running
  · rw [Runs, Runs, streams, if_neg here]

theorem not_runs_of_unattached {stream : StreamId} (unattached : host.stream? stream = none) :
    ¬ host.Runs stream := by
  rintro ⟨graph, attached, _⟩
  rw [unattached] at attached
  cases attached

theorem Numbers.stream?_attached {stream : StreamId} {graph : FilterGraph} {visits : List Visit}
    (numbers : Numbers stream visits (before.outline.attached stream graph) before after)
    (other : StreamId) :
    after.stream? other = if other = stream then some graph else before.stream? other := by
  have streams : after.streams = before.streams.insert stream graph :=
    congrArg Outline.streams numbers.shape
  rw [Host.stream?, streams, OrderedMap.find?_insert]
  rfl

theorem Sound.stream?_unattached {stream : StreamId} {visits : List Visit} {outline : Outline}
    (sound : Sound past before) (numbers : Numbers stream visits outline before after)
    (streams : outline.streams = before.streams) (other : StreamId) :
    after.stream? other = if other = stream then none else before.stream? other := by
  have same : after.streams = before.streams :=
    (congrArg Outline.streams numbers.shape).trans streams
  rw [Host.stream?, same]
  split
  · rename_i here
    rw [here]
    exact sound.unattached numbers.number
  · rfl

theorem Detaches.stream? {stream : StreamId} (detaches : Detaches stream before after)
    (other : StreamId) :
    after.stream? other = if other = stream then none else before.stream? other := by
  have erased : after.streams = before.streams.erase stream :=
    congrArg Outline.streams detaches.shape
  rw [Host.stream?, erased, OrderedMap.find?_erase]
  rfl

/-- A number is used up, and the stream is attached under it or not. -/
theorem Sound.numbers {stream : StreamId} {visits : List Visit} {outline : Outline}
    (graph? : Option FilterGraph) (sound : Sound past before)
    (numbers : Numbers stream visits outline before after)
    (controllers : after.controllers = before.controllers)
    (streams : ∀ other, after.stream? other =
      if other = stream then graph? else before.stream? other)
    (fresh : ∀ graph, graph? = some graph → graph.flow = .idle ∧
      ∀ name ∈ graph.names, (outline.mark? stream name).isSome = true) : Sound past after := by
  have unattached := sound.unattached numbers.number
  have runs := runs_of_replaced streams (not_runs_of_unattached unattached)
    fun graph same => (fresh graph same).1
  have serials : after.outline.serials = before.outline.serials :=
    congrArg (List.map _) controllers
  refine
    { nodup := serials ▸ sound.nodup, bound := ?_, recent := ?_, numbered := ?_, known := ?_,
      aligned := controllers ▸ sound.aligned, stands := ?_,
      calm := fun calm => sound.calm (calm_of_wrote numbers.wrote calm) }
  · rw [serials, numbers.nextSerial]
    exact sound.bound
  · rw [numbers.nextSerial]
    exact sound.recent
  · intro other graph attached
    rw [streams] at attached
    split at attached
    · rename_i here
      rw [here, numbers.number]
      exact numbers.lt
    · exact UInt32.lt_trans (sound.numbered other graph attached) numbers.lt
  · intro other graph attached name member
    rw [streams] at attached
    split at attached
    · rename_i here
      rw [here, numbers.shape]
      exact (fresh graph attached).2 name member
    · rename_i away
      have same : after.outline.mark? other name = before.outline.mark? other name :=
        numbers.tree.mark other name away
      rw [same]
      exact sound.known other graph attached name member
  · rw [controllers, runs]
    exact sound.stands

theorem Sound.attach {stream : StreamId} {graph : FilterGraph} {visits : List Visit}
    (sound : Sound past before) (idle : graph.flow = .idle)
    (numbers : Numbers stream visits (before.outline.attached stream graph) before after) :
    Sound past after := by
  refine sound.numbers (some graph) numbers (congrArg Outline.controllers numbers.shape)
    numbers.stream?_attached ?_
  rintro other same
  cases same
  refine ⟨idle, fun name member => ?_⟩
  simp only [Outline.attached, Outline.registered, true_and, member, if_true, Option.isSome_some]

theorem Sound.unattach {stream : StreamId} {outline : Outline} {visits : List Visit}
    (sound : Sound past before) (numbers : Numbers stream visits outline before after)
    (controllers : outline.controllers = before.controllers)
    (streams : outline.streams = before.streams) : Sound past after := by
  exact sound.numbers none numbers
    ((congrArg Outline.controllers numbers.shape).trans controllers)
    (sound.stream?_unattached numbers streams) fun _ impossible => nomatch impossible

theorem Sound.detach {stream : StreamId} {graph : FilterGraph} (sound : Sound past before)
    (found : before.stream? stream = some graph) (idle : graph.flow = .idle)
    (detaches : Detaches stream before after) : Sound past after := by
  have controllers : after.controllers = before.controllers :=
    congrArg Outline.controllers detaches.shape
  have streams := detaches.stream?
  have runs := runs_of_replaced streams (not_runs_of_idle found idle)
    fun _ impossible => nomatch impossible
  have serials : after.outline.serials = before.outline.serials :=
    congrArg (List.map _) controllers
  refine
    { nodup := serials ▸ sound.nodup, bound := ?_, recent := ?_, numbered := ?_, known := ?_,
      aligned := controllers ▸ sound.aligned, stands := ?_,
      calm := fun calm => sound.calm (calm_of_wrote detaches.wrote calm) }
  · rw [serials, detaches.nextSerial]
    exact sound.bound
  · rw [detaches.nextSerial]
    exact sound.recent
  · intro other graph attached
    rw [streams] at attached
    rw [detaches.nextStream]
    split at attached
    · cases attached
    · exact sound.numbered other graph attached
  · intro other graph attached name member
    rw [streams] at attached
    split at attached
    · cases attached
    · rename_i away
      have same : after.outline.mark? other name = before.outline.mark? other name :=
        detaches.tree.mark other name away
      rw [same]
      exact sound.known other graph attached name member
  · rw [controllers, runs]
    exact sound.stands

theorem sound_onChannel (channel : Broadcast Event) (config : Config) (memory : σ) :
    Sound .nothing (onChannel channel config memory) where
  nodup := List.nodup_nil
  bound _ member := nomatch member
  recent _ _ happened := by rcases happened with h | h | h <;> exact h.elim
  numbered _ _ attached := nomatch attached
  known _ _ attached := nomatch attached
  aligned := .nil
  stands _ member := nomatch member
  calm _ _ _ := ⟨id, id⟩

end Host

end StreamControl
