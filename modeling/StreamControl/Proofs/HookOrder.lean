import StreamControl.Proofs.HookProtocol

/-!
# The order of hooks

Within one start the hooks are called controller by controller in load order
and filter by filter in stream order, and within one stop in reverse load order
(`Episode.Orderly`).  A shutdown is made of stops, of different streams.

Together with what each controller is called for over its whole life, this is
the hook protocol (`hook_protocol`).
-/

set_option autoImplicit false

namespace StreamControl.Host

open StreamControl.Action Session

variable {σ : Type}

/-- The calls that a host has made, in order. -/
def visits (host : Host σ) : List Visit := host.session.journal.visits

/-! ## Stops -/

/-- A stop, by what it went through. -/
structure Stopping where
  /-- The stream. -/
  stream : StreamId
  /-- The filters that were started. -/
  slots : List FilterSlot
  /-- The controllers that took part. -/
  controllers : List LoadedController
  /-- What came of each filter. -/
  results : List (FilterSlot × Except Fault Unit)

namespace Stopping

/-- The calls of a stop. -/
def calls (stopping : Stopping) : List Visit :=
  stopCalls stopping.stream stopping.slots stopping.controllers stopping.results

/-- A stop goes through the started filters of the stream in stream order, and
through controllers in reverse load order. -/
structure InOrder (host : Host σ) (stopping : Stopping) : Prop where
  /-- The filters. -/
  slots : ∃ graph, host.stream? stopping.stream = some graph ∧
    stopping.slots = runningSlots graph
  /-- They are stopped in the same order. -/
  results : stopping.results.map (·.1) = stopping.slots
  /-- The controllers. -/
  controllers : (stopping.controllers.map (·.serial)).Sublist host.outline.serials.reverse

end Stopping

/-- What a shutdown calls: stops of different streams, and hooks that are called
for no filter. -/
inductive ShutsDown (host : Host σ) : List StreamId → List Visit → Prop where
  /-- Nothing yet. -/
  | nil : ShutsDown host [] []
  /-- One more stop. -/
  | stop {streams : List StreamId} {visits : List Visit} {stopping : Stopping}
      (earlier : ShutsDown host streams visits) (fresh : stopping.stream ∉ streams)
      (inOrder : stopping.InOrder host) :
      ShutsDown host (stopping.stream :: streams) (visits ++ stopping.calls)
  /-- A controller is destroyed. -/
  | destroy {streams : List StreamId} {visits : List Visit} (controller : LoadedController)
      (earlier : ShutsDown host streams visits) :
      ShutsDown host streams (visits ++ plainCall controller .destroy)

/-- The calls of an episode come in order. -/
def Episode.Orderly : Episode σ → Prop
  | ⟨.start stream, before, .returned report, after⟩ =>
    ∃ graph results, before.stream? stream = some graph ∧ results.map (·.1) = graph.slots ∧
      report.started = (startedSlots results).map (·.name) ∧
      after.visits = before.visits ++ startCalls stream graph before.controllers results
  | ⟨.stop stream, before, .returned _, after⟩ =>
    ∃ stopping : Stopping, stopping.stream = stream ∧ stopping.InOrder before ∧
      after.visits = before.visits ++ stopping.calls
  | ⟨.shutdown, before, .returned _, after⟩ | ⟨.drop, before, .returned _, after⟩ =>
    ∃ streams visits, ShutsDown before streams visits ∧ after.visits = before.visits ++ visits
  | _ => True

variable {past : Past} {host before after : Host σ}

/-- A stop of a stream goes through the filters and the controllers in order. -/
theorem Stops.inOrder {stream : StreamId} {graph : FilterGraph}
    (stops : Stops stream graph host after) (found : before.stream? stream = some graph)
    (serials : host.outline.serials.Sublist before.outline.serials) :
    ∃ stopping : Stopping, stopping.stream = stream ∧ stopping.InOrder before ∧
      after.visits = host.visits ++ stopping.calls := by
  obtain ⟨results, gone, turns⟩ := stops.turns
  refine ⟨⟨stream, runningSlots graph, host.witnesses stream, results⟩, rfl,
    ⟨⟨graph, found, rfl⟩, gone, ?_⟩, turns.wrote.visits_eq⟩
  have chosen : ((host.witnesses stream).map (·.serial)).Sublist host.outline.serials.reverse := by
    rw [Outline.serials, ← List.map_reverse]
    exact List.filter_sublist.map _
  exact chosen.trans serials.reverse

/-! ## Shutdowns -/

/-- How far a shutdown has come. -/
structure InShutdown (past : Past) (before host : Host σ) : Prop where
  /-- The host is sound. -/
  sound : Sound past host
  /-- No controller has been loaded. -/
  serials : host.outline.serials.Sublist before.outline.serials
  /-- The streams that still run are as they were. -/
  streams : ∀ stream, host.Runs stream → host.stream? stream = before.stream? stream
  /-- What has been called, and which streams have been stopped. -/
  called : ∃ streams visits, ShutsDown before streams visits ∧
    host.visits = before.visits ++ visits ∧ ∀ stream ∈ streams, ¬ host.Runs stream

theorem InShutdown.turned (shuts : InShutdown past before host)
    {visits : List Visit} {outline : Outline} (turns : Turns visits outline host after)
    (sound : Sound past after) (streams : outline.streams = host.streams)
    (left : outline.serials.Sublist host.outline.serials)
    (called : ∀ streams earlier, ShutsDown before streams earlier →
      ShutsDown before streams (earlier ++ visits)) : InShutdown past before after := by
  have unchanged : after.streams = host.streams :=
    (congrArg Outline.streams turns.shape).trans streams
  have runs : after.Runs = host.Runs := runs_of_streams unchanged
  refine ⟨sound, ?_, fun stream running => ?_, ?_⟩
  · rw [turns.shape]
    exact left.trans shuts.serials
  · have attached : after.stream? stream = host.stream? stream :=
      congrArg (·.find? stream) unchanged
    rw [runs] at running
    exact attached.trans (shuts.streams stream running)
  · obtain ⟨stopped, earlier, past, seen, idle⟩ := shuts.called
    refine ⟨stopped, earlier ++ visits, called stopped earlier past, ?_, runs ▸ idle⟩
    rw [Host.visits, turns.wrote.visits_eq, ← List.append_assoc, ← seen]
    rfl

theorem withstands_inShutdown (code : UserCode σ) :
    Withstands code (InShutdown past before) (fun _ _ => True) where
  quiet shuts turns := by
    refine shuts.turned turns (shuts.sound.quiet turns) rfl (.refl _) fun _ _ earlier => ?_
    rwa [List.append_nil]
  note shuts := ⟨shuts.sound.aside rfl rfl rfl rfl, shuts.serials, shuts.streams, shuts.called⟩
  close shuts := ⟨shuts.sound.aside rfl rfl rfl rfl, shuts.serials, shuts.streams, shuts.called⟩
  closeBroken _ := trivial
  stop {host} stream shuts := by
    have sound := shuts.sound
    refine (meets_stop code stream sound.nodup (sound.knowsSlots stream)).mono ?_
      (fun _ _ refused => refused) ?_
    · rintro _ after ⟨graph, found, flows, stops⟩
      have running : host.Runs stream := (runs_iff found).mpr flows
      refine ⟨⟨sound.stop stops, ?_, ?_, ?_⟩, stops.runs⟩
      · rw [serials_of_step stops.controllers]
        exact shuts.serials
      · intro other runs
        obtain ⟨still, away⟩ := (stops.runs other).mp runs
        have attached := stops.stream? other
        simp only [away, if_false, Option.map_id'] at attached
        exact attached.trans (shuts.streams other still)
      · obtain ⟨stopped, earlier, past, seen, idle⟩ := shuts.called
        have attached := (shuts.streams stream running).symm.trans found
        obtain ⟨stopping, same, inOrder, called⟩ := stops.inOrder attached shuts.serials
        have fresh : stopping.stream ∉ stopped := by
          rw [same]
          exact fun member => idle stream member running
        refine ⟨_, _, past.stop fresh inOrder, ?_, fun other member runs => ?_⟩
        · rw [called, seen, List.append_assoc]
        · obtain ⟨still, away⟩ := (stops.runs other).mp runs
          rcases List.mem_cons.mp member with rfl | old
          · exact away same
          · exact idle other old still
    · rintro _ after ⟨graph, found, flows, breaks⟩
      exact ⟨trivial, (runs_iff found).mpr flows, breaks.runs⟩
  unload name shuts := by
    have sound := shuts.sound
    refine (meets_unload code name sound.nodup sound.destroyable).mono ?_ ?_ (fun _ _ h => h)
    · rintro _ after ⟨controller, _, _, turns⟩
      exact shuts.turned turns (sound.unload turns) rfl (List.filter_sublist.map _)
        fun _ _ earlier => earlier.destroy controller
    · rintro _ _ ⟨rfl, _⟩
      exact shuts

theorem InShutdown.refl (sound : Sound past host) : InShutdown past host host :=
  ⟨sound, .refl _, fun _ _ => rfl, [], [], .nil, (List.append_nil _).symm, fun _ member =>
    (List.not_mem_nil member).elim⟩

/-! ## Every episode -/

/-- Every operation makes its calls in order. -/
theorem meets_orderly (code : UserCode σ) (sound : Sound past host) (operation : Operation σ) :
    Action.Meets (operation.perform code) host
      (fun value after => Episode.Orderly ⟨operation, host, .returned value, after⟩)
      (fun fault after => Episode.Orderly ⟨operation, host, .refused fault, after⟩)
      (fun reason after => Episode.Orderly ⟨operation, host, .panicked reason, after⟩) := by
  cases operation with
  | start stream =>
    refine (meets_start code stream sound.nodup (sound.knowsSlots stream)
      (sound.decided stream)).mono ?_ (fun _ _ _ => trivial) (fun _ _ _ => trivial)
    rintro report after ⟨graph, results, found, _, starts⟩
    obtain ⟨answered, hookFailures, rfl⟩ := starts.report
    exact ⟨graph, results, found, starts.slots, rfl, starts.turns.wrote.visits_eq⟩
  | stop stream =>
    refine (meets_stop code stream sound.nodup (sound.knowsSlots stream)).mono ?_
      (fun _ _ _ => trivial) (fun _ _ _ => trivial)
    rintro report after ⟨graph, found, _, stops⟩
    exact stops.inOrder found (.refl _)
  | shutdown =>
    refine ((withstands_inShutdown code).meets_shutdown (.refl sound)).mono ?_
      (fun _ _ h => h.elim) (fun _ _ _ => trivial)
    intro _ after shuts
    obtain ⟨streams, visits, made, called, _⟩ := shuts.called
    exact ⟨streams, visits, made, called⟩
  | drop =>
    refine ((withstands_inShutdown code).meets_drop (.refl sound)).mono ?_
      (fun _ _ h => h.elim) (fun _ _ _ => trivial)
    intro _ after shuts
    obtain ⟨streams, visits, made, called, _⟩ := shuts.called
    exact ⟨streams, visits, made, called⟩
  | _ => exact .of_forall _ _ (fun _ _ => trivial) (fun _ _ => trivial) fun _ _ => trivial

/-- What a controller saw of the start of a stream, if that is what the episode
was. -/
def Episode.sighting? (episode : Episode σ) (serial : Nat) (stream : StreamId) :
    Option Sighting :=
  match episode.started? with
  | some (started, report) =>
    if started = stream ∧ serial ∈ episode.before.outline.serials then
      some (episode.before.sighting stream report)
    else none
  | none => none

/-- The starts of a stream that a controller saw, oldest first. -/
def History.sightings (history : History σ) (serial : Nat) (stream : StreamId) : List Sighting :=
  history.episodes.filterMap (·.sighting? serial stream)

theorem Past.seen_next (past : Past) (episode : Episode σ) (serial : Nat) (stream : StreamId) :
    (past.next episode).seen serial stream =
      past.seen serial stream ++ (episode.sighting? serial stream).toList := by
  rw [Past.next, Episode.sighting?]
  dsimp only
  cases episode.started? with
  | none => exact (List.append_nil _).symm
  | some found =>
    obtain ⟨started, report⟩ := found
    by_cases here : stream = started
    · subst here
      by_cases member : serial ∈ episode.before.outline.serials <;> simp [member]
    · simp [here, Ne.symm here]

section Histories

variable {code : UserCode σ} {history : History σ}

theorem History.seen_eq (reachable : history.Reachable code) (serial : Nat) (stream : StreamId) :
    history.past.seen serial stream = history.sightings serial stream := by
  refine reachable.induction (motive := fun history =>
    history.past.seen serial stream = history.sightings serial stream) (fun _ _ _ => rfl) ?_
  intro history operation _ ih _ _
  rw [History.past_extend, Past.seen_next, ih, History.sightings, History.sightings,
    History.extend, List.filterMap_append]
  refine congrArg (_ ++ ·) ?_
  rw [List.filterMap_cons, List.filterMap_nil]
  cases (Episode.of code operation history.host).sighting? serial stream <;> rfl

theorem History.orderly (reachable : history.Reachable code) :
    ∀ episode ∈ history.episodes, episode.Orderly := by
  refine reachable.induction (motive := fun history =>
    ∀ episode ∈ history.episodes, episode.Orderly)
    (fun _ _ _ _ member => (List.not_mem_nil member).elim) ?_
  intro history operation reachable ih _ ends episode member
  rcases List.mem_append.mp member with old | new
  · exact ih episode old
  · rw [List.mem_singleton.mp new]
    exact Episode.of_meets (meets_orderly code (History.sound reachable) operation) ends

theorem History.lively (reachable : history.Reachable code) (calm : history.host.Calm) :
    Lively history.past history.host :=
  reachable.calm_induction lively_onChannel (fun sound lively => lively.turn sound) calm

/-- **The hook protocol.** As long as no filter has panicked, the hooks called on
a controller for a filter are `construct`, a cycle for each start of the stream
that the controller saw, of which the last is open while the stream runs, and
`destroy` once it is unloaded, each as far as the controller fills it.  Within
starts, stops and shutdowns they are called in order. -/
theorem hook_protocol {origin : History σ} (reachable : origin.Reachable code)
    (leads : History.Leads code origin history) (calm : history.host.Calm)
    {controller : LoadedController} (loaded : controller ∈ origin.host.controllers) :
    (∀ stream filter, history.host.hooksOn controller.serial stream filter =
      (Hook.construct :: cycles filter
          (decide (history.host.Runs stream ∧ history.SawLastStart controller.serial stream))
          (history.sightings controller.serial stream) ++
        if controller.serial ∈ history.host.outline.serials then [] else [Hook.destroy]).filter
        controller.module.fills) ∧
    ∀ episode ∈ history.episodes, episode.Orderly := by
  have later := reachable.leads leads
  have lived : Lively history.past history.host ∧
      Lived controller.serial controller.module history.past history.host := by
    refine leads.turn_induction reachable (motive := fun past host => host.Calm →
      Lively past host ∧ Lived controller.serial controller.module past host) ?_ ?_ calm
    · exact fun calm => ⟨History.lively reachable calm, .inl ⟨controller, loaded, rfl, rfl⟩⟩
    · intro past past' before after sound both turn calm
      obtain ⟨lively, lived⟩ := both (turn.calm calm)
      exact ⟨lively.turn sound turn calm, lived.turn sound lively turn calm⟩
  refine ⟨fun stream filter => ?_, History.orderly later⟩
  rw [← History.seen_eq later]
  obtain ⟨lively, ⟨still, member, serial, module⟩ | ⟨_, absent, ended⟩⟩ := lived
  · have there : controller.serial ∈ history.host.outline.serials :=
      serial ▸ history.host.outline.mem_serials member
    rw [if_pos there, List.append_nil, ← serial, ← module, lively.alive still member, Past.hooks]
    simp only [History.saw_iff later]
  · obtain ⟨apart, called⟩ := ended stream
    rw [if_neg absent, called]
    rw [History.saw_iff later] at apart
    rw [decide_eq_false apart]

/-- A controller that fills every hook. -/
def busyModule : ControllerModule := { code := 0, hooks := Hook.all }

/-- A history in which a controller has just been loaded. -/
def loadedHistory : History Unit :=
  .after idleCode { episodes := [], host := freshHost } [.load "mixer" none busyModule []]

/-- A history in which a stream has been started, stopped, and started again. -/
def cycledHistory : History Unit :=
  loadedHistory.after idleCode
    [.addStream (FilterGraph.empty.append "source" none), .start ⟨1⟩, .stop ⟨1⟩, .start ⟨1⟩]

theorem loadedHistory_reachable : loadedHistory.Reachable idleCode := by
  refine ⟨_, _, _, create_freshHost, History.leads_after _ ⟨⟨⟨?_, nofun⟩, ?_⟩, trivial⟩⟩
  all_goals decide +kernel

theorem leads_cycledHistory : History.Leads idleCode loadedHistory cycledHistory := by
  refine History.leads_after _ ⟨⟨⟨?_, ?_⟩, ?_⟩, ⟨⟨?_, nofun⟩, ?_⟩, ⟨⟨?_, nofun⟩, ?_⟩,
    ⟨⟨?_, nofun⟩, ?_⟩, trivial⟩
  case refine_2 =>
    intro graph same
    cases same
    exact .add .new rfl
  all_goals decide +kernel

/-- The second cycle is still open. -/
theorem hook_protocol_cycled :
    cycledHistory.host.Calm ∧ cycledHistory.host.hooksOn 0 ⟨1⟩ "source" =
      [.construct, .preStart, .postStart, .preStop, .postStop, .preStart, .postStart] := by
  have calm : cycledHistory.host.Calm := by
    decide +kernel
  have mixer : loadedHistory.host.controllers.map (fun loaded => (loaded.serial, loaded.module)) =
      [(0, busyModule)] := by
    decide +kernel
  obtain ⟨controller, loaded, same⟩ :=
    List.mem_map.mp (mixer ▸ List.mem_singleton_self (0, busyModule))
  obtain ⟨serial, module⟩ := Prod.mk.inj same
  have protocol := (hook_protocol loadedHistory_reachable leads_cycledHistory calm loaded).1
    ⟨1⟩ "source"
  rw [serial, module] at protocol
  refine ⟨calm, protocol.trans ?_⟩
  decide +kernel

end Histories

end StreamControl.Host
