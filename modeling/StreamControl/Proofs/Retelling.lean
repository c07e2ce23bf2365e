import StreamControl.Proofs.Agreement
import StreamControl.Proofs.Chronicle
import StreamControl.Proofs.Refusals

/-!
# What the events determine

As long as no filter has panicked, the chronicle that the events of a host make is
right between any two operations (`chronicle_right`): it has the loaded controllers in
order, their phases, and the streams that run, and together with the graph that a
stream was attached with it gives the state of every filter.

The chronicle is compared with the controllers (`Chronicle.Lists`) and with the streams
(`Chronicle.Shows`), and what an operation tells is put beside what it makes of the
host's outline.
-/

set_option autoImplicit false

namespace StreamControl

/-! ## Controllers -/

/-- A chronicle has some controllers, in their order and with their phases. -/
structure Chronicle.Lists (chronicle : Chronicle) (controllers : List LoadedController) :
    Prop where
  /-- Their names. -/
  names : chronicle.names = controllers.map (·.name)
  /-- No two have the same name. -/
  distinct : (controllers.map (·.name)).Nodup
  /-- Their phases; others have none. -/
  phases : ∀ name, chronicle.phases name =
    ((controllers.find? (·.name = name)).map (·.phases)).getD {}

namespace Chronicle.Lists

variable {chronicle chronicle' : Chronicle} {controllers : List LoadedController}

theorem congr (lists : chronicle.Lists controllers) (names : chronicle'.names = chronicle.names)
    (phases : chronicle'.phases = chronicle.phases) : chronicle'.Lists controllers where
  names := names.trans lists.names
  distinct := lists.distinct
  phases := phases ▸ lists.phases

/-- Some of the controllers take a step. -/
theorem step (lists : chronicle.Lists controllers) (nodup : (controllers.map (·.serial)).Nodup)
    {movers : List LoadedController} (among : movers ⊆ controllers) (stream? : Option StreamId)
    (target : Phase) :
    (chronicle.step (movers.map (·.name)) stream? target).Lists
      (controllers.map fun controller => if controller.serial ∈ movers.map (·.serial) then
        controller.moved stream? target else controller) := by
  have name (controller : LoadedController) :
      (if controller.serial ∈ movers.map (·.serial) then controller.moved stream? target
        else controller).name = controller.name := by
    split <;> rfl
  have names : (controllers.map fun controller => if controller.serial ∈ movers.map (·.serial) then
      controller.moved stream? target else controller).map (·.name) = controllers.map (·.name) := by
    rw [List.map_map]
    exact List.map_congr_left fun controller _ => name controller
  refine ⟨lists.names.trans names.symm, names ▸ lists.distinct, fun sought => ?_⟩
  rw [List.find?_map, Function.comp_def]
  simp only [name]
  rw [Chronicle.step]
  dsimp only
  rw [lists.phases]
  cases found : controllers.find? (·.name = sought) with
  | none =>
    have absent : sought ∉ movers.map (·.name) := by
      intro member
      obtain ⟨mover, moves, rfl⟩ := List.mem_map.mp member
      exact absurd (decide_eq_true rfl) (List.find?_eq_none.mp found mover (among moves))
    rw [if_neg absent]
    rfl
  | some controller =>
    have member := List.mem_of_find?_eq_some found
    have named : controller.name = sought := by simpa using List.find?_some found
    have moves : sought ∈ movers.map (·.name) ↔ controller.serial ∈ movers.map (·.serial) := by
      rw [← named, List.mem_map, List.mem_map]
      constructor
      · rintro ⟨mover, moves, same⟩
        rw [List.inj_on_of_nodup_map lists.distinct (among moves) member same] at moves
        exact ⟨controller, moves, rfl⟩
      · rintro ⟨mover, moves, same⟩
        rw [List.inj_on_of_nodup_map nodup (among moves) member same] at moves
        exact ⟨controller, moves, rfl⟩
    by_cases chosen : controller.serial ∈ movers.map (·.serial)
    · rw [if_pos (moves.mpr chosen), Option.map_some, Option.map_some, if_pos chosen]
      rfl
    · rw [if_neg (mt moves.mp chosen), Option.map_some, Option.map_some, if_neg chosen]
      rfl

/-- A controller is constructed and loaded under a free name. -/
theorem load (lists : chronicle.Lists controllers) {controller : LoadedController}
    (free : controllers.find? (·.name = controller.name) = none)
    (phase : controller.phase = .constructed) (streamPhases : controller.streamPhases = .empty) :
    ((chronicle.step [controller.name] none .constructed).load controller.name).Lists
      (controllers ++ [controller]) := by
  have absent : controller.name ∉ controllers.map (·.name) := by
    intro member
    obtain ⟨other, there, same⟩ := List.mem_map.mp member
    exact absurd (decide_eq_true same) (List.find?_eq_none.mp free other there)
  refine ⟨?_, ?_, fun sought => ?_⟩
  · rw [List.map_append, ← lists.names]
    rfl
  · rw [List.map_append, List.map_singleton, List.nodup_append]
    refine ⟨lists.distinct, List.nodup_singleton _, fun name member other new => ?_⟩
    rintro rfl
    exact absent (List.mem_singleton.mp new ▸ member)
  · rw [List.find?_append, Chronicle.load, Chronicle.step]
    dsimp only
    rw [lists.phases]
    by_cases here : sought = controller.name
    · have self : [controller].find? (·.name = controller.name) = some controller :=
        List.find?_cons_of_pos (decide_eq_true rfl)
      rw [if_pos (List.mem_singleton.mpr here), here, free, Option.none_or, self, Option.map_some,
        Option.getD_some, LoadedController.phases, phase, streamPhases]
      rfl
    · rw [if_neg (mt List.mem_singleton.mp here),
        List.find?_cons_of_neg (by simpa using Ne.symm here), List.find?_nil, Option.or_none]

/-- A controller is unloaded. -/
theorem unload (lists : chronicle.Lists controllers) (nodup : (controllers.map (·.serial)).Nodup)
    {controller : LoadedController} (member : controller ∈ controllers) :
    (chronicle.unload controller.name).Lists
      (controllers.filter (·.serial ≠ controller.serial)) := by
  have same (other : LoadedController) (present : other ∈ controllers) :
      other.serial = controller.serial ↔ other.name = controller.name :=
    ⟨fun same => congrArg (·.name) (List.inj_on_of_nodup_map nodup present member same),
      fun same => congrArg (·.serial) (List.inj_on_of_nodup_map lists.distinct present member same)⟩
  have rest : controllers.filter (·.serial ≠ controller.serial) =
      controllers.filter (·.name ≠ controller.name) :=
    List.filter_congr fun other present => by simp only [ne_eq, same other present]
  rw [rest]
  refine ⟨?_, lists.distinct.sublist (List.filter_sublist.map _), fun sought => ?_⟩
  · rw [Chronicle.unload, lists.names, List.filter_map]
    rfl
  · rw [Chronicle.unload]
    dsimp only
    rw [lists.phases]
    by_cases here : sought = controller.name
    · have gone : (controllers.filter (·.name ≠ controller.name)).find? (·.name = sought) = none :=
        List.find?_eq_none.mpr fun other there => by simpa [here] using (List.mem_filter.mp there).2
      rw [if_pos here, gone]
      rfl
    · have kept : (controllers.filter (·.name ≠ controller.name)).find? (·.name = sought) =
          controllers.find? (·.name = sought) := by
        rw [List.find?_filter]
        congr 1
        funext other
        by_cases there : other.name = sought <;> simp [there, here]
      rw [if_neg here, kept]

end Chronicle.Lists

/-! ## Streams -/

namespace FilterGraph

/-- The filters of a graph, in the states that have last been told of them. -/
def retold (graph : FilterGraph) (state? : String → Option FilterState) : List FilterNode :=
  graph.nodes.map fun node => { node with state := (state? node.name).getD node.state }

variable {graph first : FilterGraph} {state? state?' : String → Option FilterState}

theorem names_of_retold (told : graph.nodes = first.retold state?) : graph.names = first.names := by
  rw [names, told, retold, List.map_map]
  rfl

/-- Of what is told of a filter, the last shows. -/
theorem retold_again (told : graph.nodes = first.retold state?)
    (later : ∀ name ∈ graph.names, state?' name = none → state? name = none) :
    graph.retold state?' = first.retold state?' := by
  rw [retold, told, retold, retold, List.map_map]
  refine List.map_congr_left fun node member => ?_
  have present : node.name ∈ graph.names := names_of_retold told ▸ List.mem_map_of_mem member
  rw [Function.comp_apply]
  cases new : state?' node.name with
  | none =>
    rw [later node.name present new]
    rfl
  | some state => rfl

/-- A start at which every filter is told of. -/
theorem nodes_settled {results : List (FilterSlot × StartResult)}
    (all : results.map (·.1) = graph.slots)
    (told : ∀ result ∈ results, state? result.1.name = some result.2.state) :
    (graph.settled results).nodes = graph.retold state? := by
  have indices : results.map (·.1.index) = List.range' 0 results.length := by
    have known := graph.index_slots
    rw [← all, List.map_map, List.length_map] at known
    exact known
  refine List.ext_getElem? fun position => ?_
  have slot := congrArg (fun slots => slots[position]?) all
  rw [slots_eq, List.getElem?_mapIdx, List.getElem?_map] at slot
  rw [graph.getElem?_nodes_settled results 0 indices, retold, List.getElem?_map]
  cases found : graph.nodes[position]? with
  | none => rfl
  | some node =>
    rw [found, Option.map_some] at slot
    obtain ⟨result, present, same⟩ := Option.map_eq_some_iff.mp slot
    have known := told result (List.mem_of_getElem? present)
    rw [same] at known
    rw [Option.map_some, Option.map_some, if_neg (Nat.not_lt_zero _), Nat.sub_zero, present]
    simp only [slotOf] at known
    rw [known]
    rfl

/-- A stop that goes to its end, and what is told of it. -/
theorem nodes_halted (told : graph.nodes = first.retold state?) (distinct : first.names.Nodup)
    (stopped : ∀ name, state?' name =
      if name ∈ (Host.runningSlots graph).map (·.name) then some .stopped else state? name) :
    (graph.halted (Host.runningSlots graph)).nodes = first.retold state?' := by
  rw [nodes_halted_runningSlots, told, retold, retold, List.map_map]
  refine List.map_congr_left fun node member => ?_
  rw [Function.comp_apply, stopped]
  have present : { node with state := (state? node.name).getD node.state } ∈ graph.nodes := by
    rw [told]
    exact List.mem_map_of_mem member
  generalize hold : { node with state := (state? node.name).getD node.state } = old at present
  have named : old.name = node.name := by rw [← hold]
  have running : node.name ∈ (Host.runningSlots graph).map (·.name) ↔ old.state = .started := by
    rw [Host.mem_names_runningSlots]
    constructor
    · rintro ⟨other, there, same, started⟩
      rw [← names_of_retold told] at distinct
      rwa [List.inj_on_of_nodup_map distinct there present (same.trans named.symm)] at started
    · exact fun started => ⟨old, present, named, started⟩
  by_cases started : old.state = .started
  · rw [if_pos started, if_pos (running.mpr started), ← hold]
    rfl
  · rw [if_neg started, if_neg (mt running.mp started), hold]

end FilterGraph

/-! ## What is told at a start -/

namespace Chronicle

variable {chronicle : Chronicle} {stream : StreamId}

/-- Only the filters of the stream are told of. -/
theorem state?_settled_of_ne (results : List (FilterSlot × StartResult)) {other : StreamId}
    (away : other ≠ stream) :
    (chronicle.settled stream results).state? other = chronicle.state? other := by
  induction results generalizing chronicle with
  | nil => rfl
  | cons result rest ih =>
    obtain ⟨slot, result⟩ := result
    refine (@ih (chronicle.settle stream (slot, result))).trans (funext fun filter => ?_)
    cases result <;> simp [settle, tell, away]

theorem state?_settled_of_notMem (results : List (FilterSlot × StartResult)) {filter : String}
    (absent : filter ∉ results.map (·.1.name)) :
    (chronicle.settled stream results).state? stream filter = chronicle.state? stream filter := by
  induction results generalizing chronicle with
  | nil => rfl
  | cons result rest ih =>
    obtain ⟨slot, result⟩ := result
    rw [List.map_cons, List.mem_cons, not_or] at absent
    refine (@ih (chronicle.settle stream (slot, result)) absent.2).trans ?_
    cases result <;> simp [settle, tell, absent.1]

/-- What comes of each filter is told, unless it is held back. -/
theorem state?_settled {results : List (FilterSlot × StartResult)}
    (distinct : (results.map (·.1.name)).Nodup) {result : FilterSlot × StartResult}
    (member : result ∈ results) :
    (chronicle.settled stream results).state? stream result.1.name =
      if result.2 = .vetoed then chronicle.state? stream result.1.name
      else some result.2.state := by
  induction results generalizing chronicle with
  | nil => cases member
  | cons first rest ih =>
    rw [List.map_cons, List.nodup_cons] at distinct
    rcases List.mem_cons.mp member with rfl | later
    · obtain ⟨slot, result⟩ := result
      refine (state?_settled_of_notMem rest distinct.1).trans ?_
      cases result <;> simp [settle, tell, StartResult.state]
    · have away : result.1.name ≠ first.1.name := fun same =>
        distinct.1 (same ▸ List.mem_map_of_mem later)
      refine (@ih (chronicle.settle stream first) distinct.2 later).trans ?_
      obtain ⟨slot, result⟩ := first
      cases result <;> simp [settle, tell, away]

/-- After a start every filter has been told to be in the state it is in. -/
theorem state?_started {graph : FilterGraph} {names : List String}
    {results : List (FilterSlot × StartResult)} {vetoed : List FilterSlot}
    (distinct : graph.names.Nodup) (all : results.map (·.1) = graph.slots)
    (among : vetoed ⊆ graph.slots)
    (held : ∀ result ∈ results, result.2 = .vetoed → ∃ slot ∈ vetoed, slot.index = result.1.index) :
    ∀ result ∈ results, (chronicle.started stream names (vetoed.map (·.name)) results).state? stream
      result.1.name = some result.2.state := by
  intro result member
  have present : result.1 ∈ graph.slots := all ▸ List.mem_map_of_mem member
  have names : (results.map (·.1.name)).Nodup := by
    rw [FilterGraph.names, ← graph.map_name_slots, ← all, List.map_map] at distinct
    exact distinct
  refine (state?_settled names member).trans ?_
  split
  · rename_i same
    obtain ⟨slot, vetoes, number⟩ := held result member same
    have indices : (graph.slots.map (·.index)).Nodup := graph.index_slots ▸ List.nodup_range'
    have equal := List.inj_on_of_nodup_map indices (among vetoes) present number
    have told : result.1.name ∈ vetoed.map (·.name) := equal ▸ List.mem_map_of_mem vetoes
    rw [same]
    exact if_pos ⟨rfl, told⟩
  · rfl

theorem state?_started_of_ne {names vetoed : List String}
    {results : List (FilterSlot × StartResult)} {other : StreamId} (away : other ≠ stream) :
    (chronicle.started stream names vetoed results).state? other = chronicle.state? other := by
  refine (state?_settled_of_ne results away).trans (funext fun filter => ?_)
  simp [tell, step, away]

theorem state?_stopped {names filters : List String} (filter : String) :
    (chronicle.stopped stream names filters).state? stream filter =
      if filter ∈ filters then some .stopped else chronicle.state? stream filter := by
  simp [stopped, setRuns, step, tell]

theorem state?_stopped_of_ne {names filters : List String} {other : StreamId}
    (away : other ≠ stream) :
    (chronicle.stopped stream names filters).state? other = chronicle.state? other := by
  funext filter
  simp [stopped, setRuns, step, tell, away]

/-- What a start makes of the controllers. -/
theorem Lists.started {controllers : List LoadedController}
    (lists : chronicle.Lists controllers) (nodup : (controllers.map (·.serial)).Nodup)
    (vetoed : List String) (results : List (FilterSlot × StartResult)) :
    (chronicle.started stream (controllers.map (·.name)) vetoed results).Lists
      (controllers.map fun controller => if controller.serial ∈ controllers.map (·.serial) then
        controller.moved (some stream) .started else controller) := by
  have phases := congrArg Chronicle.phases
    (step_again chronicle (controllers.map (·.name)) (some stream) .preStarted .started)
  refine (lists.step nodup (List.Subset.refl _) (some stream) .started).congr ?_ ?_
  · rw [Chronicle.started, starting, settled_eq]
    rfl
  · rw [Chronicle.started, starting, settled_eq]
    exact phases

/-- What a stop makes of them. -/
theorem Lists.stopped {controllers movers : List LoadedController}
    (lists : chronicle.Lists controllers) (nodup : (controllers.map (·.serial)).Nodup)
    (among : movers ⊆ controllers) (filters : List String) :
    (chronicle.stopped stream (movers.map (·.name)) filters).Lists
      (controllers.map fun controller => if controller.serial ∈ movers.map (·.serial) then
        controller.moved (some stream) .stopped else controller) := by
  have phases := congrArg Chronicle.phases
    (step_again chronicle (movers.map (·.name)) (some stream) .preStopped .stopped)
  exact (lists.step nodup among (some stream) .stopped).congr rfl phases

end Chronicle

namespace Host

open StreamControl.Action Session

variable {σ : Type}

/-! ## Streams as they were attached -/

/-- The stream that was attached, and its filter graph, if that is what happened. -/
def Episode.attached? : Episode σ → Option (StreamId × FilterGraph)
  | ⟨.addStream graph, _, .returned stream, _⟩ => some (stream, graph)
  | _ => none

/-- The graphs that streams have been attached with, after one more episode. -/
def Episode.adds (added : StreamId → Option FilterGraph) (episode : Episode σ) (stream : StreamId) :
    Option FilterGraph :=
  match episode.attached? with
  | some (other, graph) => if stream = other then some graph else added stream
  | none => added stream

/-- The graph that a stream was attached with. -/
def History.attachedAs? (history : History σ) : StreamId → Option FilterGraph :=
  history.episodes.foldl Episode.adds fun _ => none

theorem History.attachedAs?_extend (code : UserCode σ) (history : History σ)
    (operation : Operation σ) :
    (history.extend code operation).attachedAs? =
      (Episode.of code operation history.host).adds history.attachedAs? := by
  rw [attachedAs?, extend, List.foldl_append]
  rfl

/-- A chronicle shows what the streams of a host are doing. -/
structure Shows (chronicle : Chronicle) (added : StreamId → Option FilterGraph) (host : Host σ) :
    Prop where
  /-- It knows which streams run. -/
  runs : ∀ stream, chronicle.runs stream = true ↔ host.Runs stream
  /-- A filter is in the state that has last been told of it, or else in that in which
  it was attached. -/
  states : ∀ stream graph, host.stream? stream = some graph → ∃ first, added stream = some first ∧
    first.names.Nodup ∧ graph.nodes = first.retold (chronicle.state? stream)
  /-- Nothing has been told of streams to come. -/
  unheard : ∀ stream, host.nextStream ≤ stream.number → chronicle.state? stream = fun _ => none

/-- The chronicle of a host is right. -/
structure Told (added : StreamId → Option FilterGraph) (host : Host σ) : Prop where
  /-- It has the controllers. -/
  lists : host.chronicle.Lists host.controllers
  /-- It shows what the streams are doing. -/
  shows : Shows host.chronicle added host

section Told

variable {added : StreamId → Option FilterGraph} {past : Past} {before after : Host σ}

theorem told_onChannel (channel : Broadcast Event) (config : Config) (memory : σ) :
    Told (fun _ => none) (onChannel channel config memory) where
  lists := ⟨rfl, List.nodup_nil, fun _ => rfl⟩
  shows :=
    { runs := fun stream => ⟨fun impossible => (nomatch impossible), fun running => by
        obtain ⟨_, attached, _⟩ := running
        cases attached⟩
      states := fun _ _ attached => nomatch attached
      unheard := fun _ _ => rfl }

theorem Told.shows_of (told : Told added before) (streams : after.streams = before.streams)
    (nextStream : before.nextStream ≤ after.nextStream) {chronicle : Chronicle}
    (runs : chronicle.runs = before.chronicle.runs)
    (state? : chronicle.state? = before.chronicle.state?) : Shows chronicle added after where
  runs stream := by
    rw [runs, runs_of_streams streams]
    exact told.shows.runs stream
  states stream graph attached := by
    rw [Host.stream?, streams] at attached
    rw [state?]
    exact told.shows.states stream graph attached
  unheard stream above := by
    rw [state?]
    exact told.shows.unheard stream (UInt32.le_trans nextStream above)

/-- Nothing is told, and nothing changes. -/
theorem Told.quiet (told : Told added before) (chronicle : after.chronicle = before.chronicle)
    (controllers : after.controllers = before.controllers)
    (streams : after.streams = before.streams)
    (nextStream : before.nextStream ≤ after.nextStream) : Told added after where
  lists := by
    rw [chronicle, controllers]
    exact told.lists
  shows := told.shows_of streams nextStream (by rw [chronicle]) (by rw [chronicle])

theorem Told.turns (told : Told added before) {visits : List Visit}
    (turns : Turns visits before.outline before after)
    (chronicle : after.chronicle = before.chronicle) : Told added after :=
  told.quiet chronicle (congrArg Outline.controllers turns.shape)
    (congrArg Outline.streams turns.shape) (turns.nextStream ▸ UInt32.le_refl _)

/-- A stream is attached or detached, which is not told. -/
theorem Told.replace (told : Told added before) {stream : StreamId} {graph? : Option FilterGraph}
    (chronicle : after.chronicle = before.chronicle)
    (controllers : after.controllers = before.controllers)
    (streams : ∀ other, after.stream? other =
      if other = stream then graph? else before.stream? other)
    (nextStream : before.nextStream ≤ after.nextStream) (still : ¬ before.Runs stream)
    (fresh : ∀ graph, graph? = some graph → graph.flow = .idle ∧ graph.names.Nodup ∧
      stream.number = before.nextStream) :
    Told (fun other => if other = stream then graph?.or (added other) else added other) after where
  lists := by
    rw [chronicle, controllers]
    exact told.lists
  shows := by
    rw [chronicle]
    refine ⟨fun other => ?_, fun other graph attached => ?_, fun other above => ?_⟩
    · rw [runs_of_replaced streams still fun graph same => (fresh graph same).1]
      exact told.shows.runs other
    · rw [streams] at attached
      split at attached
      · rename_i here
        obtain ⟨_, distinct, number⟩ := fresh graph attached
        refine ⟨graph, by simp [here, attached], distinct, ?_⟩
        have unheard := told.shows.unheard other (by rw [here, number]; exact UInt32.le_refl _)
        rw [unheard, FilterGraph.retold]
        simp
      · rename_i away
        simp only [away, if_false]
        exact told.shows.states other graph attached
    · exact told.shows.unheard other (UInt32.le_trans nextStream above)

theorem Told.load (told : Told added before) {controller : LoadedController}
    (loads : Loads controller before after) (free : before.controller? controller.name = none)
    (chronicle : after.chronicle =
      (before.chronicle.step [controller.name] none .constructed).load controller.name) :
    Told added after where
  lists := by
    have controllers : after.controllers = before.controllers ++ [controller] :=
      congrArg Outline.controllers loads.turns.shape
    rw [chronicle, controllers]
    exact told.lists.load free loads.phase loads.streamPhases
  shows := by
    rw [chronicle]
    exact told.shows_of (congrArg Outline.streams loads.turns.shape)
      (loads.turns.nextStream ▸ UInt32.le_refl _) rfl rfl

theorem Told.unload (told : Told added before) (sound : Sound past before)
    {controller : LoadedController} (member : controller ∈ before.controllers)
    {visits : List Visit}
    (turns : Turns visits (before.outline.unloaded controller.serial) before after)
    (chronicle : after.chronicle = before.chronicle.unload controller.name) :
    Told added after where
  lists := by
    have controllers : after.controllers =
        before.controllers.filter (·.serial ≠ controller.serial) :=
      congrArg Outline.controllers turns.shape
    rw [chronicle, controllers]
    exact told.lists.unload sound.nodup member
  shows := by
    rw [chronicle]
    exact told.shows_of (congrArg Outline.streams turns.shape)
      (turns.nextStream ▸ UInt32.le_refl _) rfl rfl

/-- A stream whose number is not used up yet is not attached. -/
theorem Sound.ne_of_above (sound : Sound past before) {stream other : StreamId}
    {graph : FilterGraph} (found : before.stream? stream = some graph)
    (above : before.nextStream ≤ other.number) : other ≠ stream := by
  rintro rfl
  exact absurd (sound.numbered other graph found) (UInt32.not_lt.mpr above)

theorem Told.start (told : Told added before) (sound : Sound past before) {stream : StreamId}
    {graph : FilterGraph} {report : StartReport} {results : List (FilterSlot × StartResult)}
    (found : before.stream? stream = some graph)
    (starts : Starts stream graph report results before after) {vetoed : List FilterSlot}
    (among : vetoed ⊆ graph.slots)
    (held : ∀ result ∈ results, result.2 = .vetoed → ∃ slot ∈ vetoed, slot.index = result.1.index)
    (chronicle : after.chronicle = before.chronicle.started stream before.controllerNames
      (vetoed.map (·.name)) results) : Told added after where
  lists := by
    rw [chronicle, starts.controllers]
    exact told.lists.started sound.nodup _ results
  shows := by
    rw [chronicle]
    refine ⟨fun other => ?_, fun other graph' attached => ?_, fun other above => ?_⟩
    · rw [starts.runs found, ← told.shows.runs other, Chronicle.started, Chronicle.starting,
        Chronicle.settled_eq]
      by_cases here : other = stream <;>
        simp [here, Chronicle.setRuns, Chronicle.step, Chronicle.tell]
    · rw [starts.stream?] at attached
      obtain ⟨old, there, rfl⟩ := Option.map_eq_some_iff.mp attached
      obtain ⟨first, same, distinct, nodes⟩ := told.shows.states other old there
      refine ⟨first, same, distinct, ?_⟩
      split
      · rename_i here
        subst here
        rw [found, Option.some.injEq] at there
        subst there
        have names := FilterGraph.names_of_retold nodes
        have told' : ∀ result ∈ results,
            (before.chronicle.started other before.controllerNames (vetoed.map (·.name))
              results).state? other result.1.name = some result.2.state :=
          Chronicle.state?_started (names ▸ distinct) starts.slots among held
        refine (FilterGraph.nodes_settled starts.slots told').trans
          (FilterGraph.retold_again nodes fun name member silent => ?_)
        rw [FilterGraph.names, ← graph.map_name_slots, ← starts.slots, List.map_map] at member
        obtain ⟨result, present, rfl⟩ := List.mem_map.mp member
        rw [Function.comp_apply, told' result present] at silent
        cases silent
      · rename_i away
        rw [Chronicle.state?_started_of_ne away]
        exact nodes
    · rw [starts.turns.nextStream] at above
      rw [Chronicle.state?_started_of_ne (sound.ne_of_above found above)]
      exact told.shows.unheard other above

theorem Told.stop (told : Told added before) (sound : Sound past before) {stream : StreamId}
    {graph : FilterGraph} (found : before.stream? stream = some graph)
    (stops : Stops stream graph before after)
    (chronicle : after.chronicle = before.chronicle.stopped stream
      ((before.witnesses stream).map (·.name)) ((runningSlots graph).map (·.name))) :
    Told added after where
  lists := by
    rw [chronicle, stops.controllers]
    exact told.lists.stopped sound.nodup (fun _ member => (mem_witnesses.mp member).1) _
  shows := by
    rw [chronicle]
    refine ⟨fun other => ?_, fun other graph' attached => ?_, fun other above => ?_⟩
    · rw [stops.runs, ← told.shows.runs other]
      by_cases here : other = stream <;>
        simp [here, Chronicle.stopped, Chronicle.setRuns, Chronicle.step, Chronicle.tell]
    · rw [stops.stream?] at attached
      obtain ⟨old, there, rfl⟩ := Option.map_eq_some_iff.mp attached
      obtain ⟨first, same, distinct, nodes⟩ := told.shows.states other old there
      refine ⟨first, same, distinct, ?_⟩
      split
      · rename_i here
        subst here
        rw [found, Option.some.injEq] at there
        subst there
        exact FilterGraph.nodes_halted nodes distinct Chronicle.state?_stopped
      · rename_i away
        rw [Chronicle.state?_stopped_of_ne away]
        exact nodes
    · obtain ⟨_, _, turns⟩ := stops.turns
      rw [turns.nextStream] at above
      rw [Chronicle.state?_stopped_of_ne (sound.ne_of_above found above)]
      exact told.shows.unheard other above

end Told

/-! ## What operations tell -/

section Operations

variable (code : UserCode σ) {past : Past} {added : StreamId → Option FilterGraph} {host : Host σ}

/-- A start tells what becomes of the filters. -/
theorem meets_start_told (sound : Sound past host) (calm : host.Calm) (told : Told added host)
    (stream : StreamId) :
    (start code stream).Meets host (fun _ => Told added) (fun _ after => after = host)
      (fun _ after => ¬ after.Calm) := by
  rw [start, meets_bind, attached, meets_bind, meets_get]
  cases found : host.stream? stream with
  | none => rfl
  | some graph =>
    dsimp only
    rw [meets_pure]
    cases flow : graph.flow with
    | running => rfl
    | idle =>
      have ready := sound.ready calm (not_runs_of_idle found flow)
      have known := sound.knowsSlots stream graph found
      dsimp only
      rw [startIdle_eq, meets_bind, meets_get, meets_bind]
      refine ((meets_openStart code sound.nodup ready known).with
        (tells_openStart code sound.nodup)).mono ?_ (fun _ _ h => h.elim)
          fun _ _ breaks => breaks.not_calm
      rintro ⟨vetoFailures, results⟩ opened ⟨⟨visited, turns⟩, vetoed, among, held, tells⟩
      rw [meets_bind]
      refine ((visits_onSession (Calls.drain code) opened).with
        (tells.quiet (keeps_drain_chronicle code _))).always fun answered drained both => ?_
      obtain ⟨quiet, tells⟩ := both
      rw [turns.shape] at quiet
      have drains := turns.trans quiet
      have controllers : drained.outline.controllers =
          (host.outline.step host.outline.serials (some stream) .preStarted).controllers := by
        rw [quiet.shape]
        exact host.outline.controllers_starting stream results
      rw [meets_bind]
      refine ((meets_closeStart code sound.nodup results controllers).with
        (tells_closeStart code (tells.nodup sound.nodup) tells.roll results)).always
          fun failures after last => ?_
      obtain ⟨closes, more⟩ := last
      rw [drains.shape] at closes
      rw [tells.chronicle] at more
      have all := drains.trans closes
      rw [List.append_nil] at all
      exact told.start sound found ⟨ready, visited, ⟨answered, vetoFailures + failures, rfl⟩, all⟩
        among held more.chronicle

/-- What calls nothing and sends no news. -/
theorem keeps_told_quiet {α : Type} {action : Action (Session σ) α} {panic : Prop}
    (calls : Calls [] action)
    (quiet : ∀ chronicle, Keeps (fun session => session.journal.chronicle = chronicle) True True
      action) :
    Keeps (fun host => host.Calm → Sound past host ∧ Told added host) False panic
      (onSession action) := by
  intro host holds
  refine ((visits_onSession calls host).with ((Tells.refl host).quiet (quiet _))).always
    fun _ after both calm => ?_
  obtain ⟨turns, tells⟩ := both
  obtain ⟨sound, told⟩ := holds (calm_of_wrote turns.wrote calm)
  exact ⟨sound.quiet turns, told.turns turns tells.chronicle⟩

/-- What is shown of calm hosts; a panic of a filter is not forgotten. -/
theorem keeps_while_calm {α : Type} {P : Host σ → Prop} {action : Action (Host σ) α}
    {refusal panic : Prop} (alarmed : Keeps (fun host => ¬ host.Calm) refusal panic action)
    (calm : ∀ host, host.Calm → P host → action.Meets host (fun _ after => after.Calm → P after)
      (fun _ after => refusal ∧ (after.Calm → P after))
      (fun _ after => panic ∧ (after.Calm → P after))) :
    Keeps (fun host => host.Calm → P host) refusal panic action := by
  intro host holds
  by_cases still : host.Calm
  · exact calm host still (holds still)
  · exact (alarmed host still).mono (fun _ _ loud calm => absurd calm loud)
      (fun _ _ both => ⟨both.1, fun calm => absurd calm both.2⟩)
      fun _ _ both => ⟨both.1, fun calm => absurd calm both.2⟩

theorem keeps_told_stop (stream : StreamId) :
    Keeps (fun host => host.Calm → Sound past host ∧ Told added host) True True
      (stop code stream) := by
  refine keeps_while_calm ((enduring_alarmed code).stoppable.keeps_stop stream) fun host _ both => ?_
  obtain ⟨sound, told⟩ := both
  refine ((meets_stop code stream sound.nodup (sound.knowsSlots stream)).with
    (tells_stop code stream sound.nodup)).mono ?_ ?_ ?_
  · rintro report after ⟨⟨graph, found, _, stops⟩, _, again, tells⟩ _
    rw [found, Option.some.injEq] at again
    subst again
    exact ⟨sound.stop stops, told.stop sound found stops tells.chronicle⟩
  · rintro _ _ ⟨rfl, _⟩
    exact ⟨trivial, fun _ => ⟨sound, told⟩⟩
  · rintro _ after ⟨_, _, _, breaks⟩
    exact ⟨trivial, fun calm => absurd calm breaks.not_calm⟩

theorem keeps_told_unload (name : String) :
    Keeps (fun host => host.Calm → Sound past host ∧ Told added host) True True
      (unload code name) := by
  have alarmed := (enduring_alarmed code).patient.keeps_unload (enduring_alarmed code _) name
  refine keeps_while_calm (alarmed.mono id False.elim) fun host _ both => ?_
  obtain ⟨sound, told⟩ := both
  refine ((meets_unload code name sound.nodup sound.destroyable).with
    (tells_unload code name sound.nodup)).mono ?_ ?_ (fun _ _ h => h.elim)
  · rintro _ after ⟨⟨controller, loaded, _, turns⟩, chronicle⟩ _
    have named : controller.name = name := by
      simpa using List.find?_some (loaded : host.controllers.find? _ = _)
    rw [← named] at chronicle
    exact ⟨sound.unload turns,
      told.unload sound (List.mem_of_find?_eq_some loaded) turns chronicle⟩
  · rintro _ _ ⟨rfl, _⟩
    exact ⟨trivial, fun _ => ⟨sound, told⟩⟩

/-- A shutdown tells of its stops and unloads. -/
theorem meets_told_shutdown (sound : Sound past host) (told : Told added host) :
    (shutdown code).Meets host (fun _ after => after.Calm → Sound past after ∧ Told added after)
      (fun _ after => False ∧ (after.Calm → Sound past after ∧ Told added after))
      (fun _ after => True ∧ (after.Calm → Sound past after ∧ Told added after)) := by
  have log (level : Level) (text : String) (chronicle : Chronicle) :
      Keeps (fun session : Session σ => session.journal.chronicle = chronicle) True True
        (Session.log level text) := (sober_chronicle code chronicle).keeps_log level text
  have discard (chronicle : Chronicle) :
      Keeps (fun session : Session σ => session.journal.chronicle = chronicle) True True
        Session.discardWaiting :=
    (lax_chronicle chronicle).keeps_takeWaiting.bind fun _ => keeps_get.bind fun _ => keeps_pure _
  refine meets_shutdown_of (P := fun host => host.Calm → Sound past host ∧ Told added host)
    (fun level text => keeps_told_quiet (Calls.log level text) (log level text))
    (keeps_told_stop code) (keeps_told_unload code)
    (keeps_told_quiet Calls.discardWaiting discard) (fun _ _ => ?_) fun _ _ => ⟨sound, told⟩
  exact ⟨sound.aside rfl rfl rfl rfl, told.quiet rfl rfl rfl (UInt32.le_refl _)⟩

/-- After an operation the chronicle is right, unless a filter has panicked. -/
def Episode.Retells (added : StreamId → Option FilterGraph) (episode : Episode σ) : Prop :=
  episode.after.Calm → Told (episode.adds added) episode.after

/-- An operation tells what it does, however it ends. -/
def Retells (added : StreamId → Option FilterGraph) (operation : Operation σ) (host : Host σ) :
    Prop :=
  Action.Meets (operation.perform code) host
    (fun value after => Episode.Retells added ⟨operation, host, .returned value, after⟩)
    (fun fault after => Episode.Retells added ⟨operation, host, .refused fault, after⟩)
    (fun reason after => Episode.Retells added ⟨operation, host, .panicked reason, after⟩)

theorem retells_addStream (sound : Sound past host) (told : Told added host) {graph : FilterGraph}
    (idle : graph.flow = .idle) : Retells code added (.addStream graph) host := by
  refine ((meets_addStream code graph host).and
    (meets_perform_quietly code (.addStream graph) id)).mono ?_ ?_ ?_
  · rintro stream after ⟨⟨distinct, _, numbers⟩, chronicle⟩ _
    have unattached := sound.unattached numbers.number
    refine told.replace chronicle (congrArg Outline.controllers numbers.shape)
      numbers.stream?_attached (UInt32.le_of_lt numbers.lt) (not_runs_of_unattached unattached) ?_
    rintro other same
    cases same
    exact ⟨idle, distinct, numbers.number⟩
  · rintro fault after ⟨⟨stream, visits, _, numbers⟩, chronicle⟩ _
    exact told.quiet chronicle (congrArg Outline.controllers numbers.shape)
      (congrArg Outline.streams numbers.shape) (UInt32.le_of_lt numbers.lt)
  · rintro reason after ⟨⟨_, rfl⟩ | ⟨stream, names, visits, filter, member, numbers⟩, _⟩ calm
    · exact told
    · exact absurd calm (not_calm_of_mem numbers.wrote member)

theorem retells_removeStream (told : Told added host) (stream : StreamId) :
    Retells code added (.removeStream stream) host := by
  refine ((meets_removeStream code stream host).and
    (meets_perform_quietly code (.removeStream stream) id)).mono ?_ ?_
      (fun _ _ both => both.1.elim)
  · rintro graph after ⟨⟨found, flow, detaches⟩, chronicle⟩ _
    have replaced := told.replace chronicle (congrArg Outline.controllers detaches.shape)
      detaches.stream? (detaches.nextStream ▸ UInt32.le_refl _) (not_runs_of_idle found flow)
      fun _ impossible => nomatch impossible
    simp only [Option.none_or, ite_self] at replaced
    exact replaced
  · rintro fault _ ⟨rfl, _⟩ _
    exact told

theorem retells_load (told : Told added host) (path : String) (requested : Option String)
    (module : ControllerModule) (arguments : List String) :
    Retells code added (.load path requested module arguments) host := by
  refine ((meets_load code path requested module arguments host).and
    (tells_load code path requested module arguments host)).mono ?_ ?_
      (fun _ _ both => both.1.elim)
  · rintro name after ⟨⟨controller, rfl, loads⟩, free, chronicle⟩ _
    exact told.load loads free chronicle
  · rintro fault after ⟨rfl | ⟨controller, _, turns⟩, chronicle⟩ _
    · exact told
    · exact told.quiet chronicle (congrArg Outline.controllers turns.shape)
        (congrArg Outline.streams turns.shape) (turns.nextStream ▸ UInt32.le_refl _)

/-- **Every operation tells what it does.** -/
theorem meets_retells (sound : Sound past host) (calm : host.Calm) (told : Told added host)
    (operation : Operation σ) (idle : ∀ graph, operation = .addStream graph → graph.flow = .idle) :
    Retells code added operation host := by
  cases operation with
  | addStream graph => exact retells_addStream code sound told (idle graph rfl)
  | removeStream stream => exact retells_removeStream code told stream
  | load path requested module arguments =>
    exact retells_load code told path requested module arguments
  | unload name =>
    exact (keeps_told_unload code name host fun _ => ⟨sound, told⟩).mono
      (fun _ _ holds calm => (holds calm).2) (fun _ _ both calm => (both.2 calm).2)
      fun _ _ both calm => (both.2 calm).2
  | start stream =>
    refine (meets_start_told code sound calm told stream).mono (fun _ _ told _ => told) ?_
      fun _ _ alarmed calm => absurd calm alarmed
    rintro fault _ rfl _
    exact told
  | stop stream =>
    exact (keeps_told_stop code stream host fun _ => ⟨sound, told⟩).mono
      (fun _ _ holds calm => (holds calm).2) (fun _ _ both calm => (both.2 calm).2)
      fun _ _ both calm => (both.2 calm).2
  | shutdown =>
    exact (meets_told_shutdown code sound told).mono (fun _ _ holds calm => (holds calm).2)
      (fun _ _ both calm => (both.2 calm).2) fun _ _ both calm => (both.2 calm).2
  | drop =>
    refine (meets_drop_of (meets_told_shutdown code sound told) fun host holds calm => ?_).mono
      (fun _ _ holds calm => (holds calm).2) (fun _ _ both calm => (both.2 calm).2)
      fun _ _ both calm => (both.2 calm).2
    obtain ⟨sound, told⟩ := holds calm
    exact ⟨sound.aside rfl rfl rfl rfl, told.quiet rfl rfl rfl (UInt32.le_refl _)⟩
  | help name =>
    refine ((meets_help code name host).and
      (meets_perform_quietly code (.help name) id)).mono ?_
        (fun _ _ both => both.1.elim) (fun _ _ both => both.1.elim)
    rintro text after ⟨⟨visits, _, turns⟩, chronicle⟩ _
    exact told.turns turns chronicle
  | outside program =>
    refine ((meets_outside code program host).and
      (meets_perform_quietly code (.outside program) id)).mono ?_
        (fun _ _ both => both.1.elim) ?_
    · rintro _ after ⟨turns, chronicle⟩ _
      exact told.turns turns chronicle
    · rintro reason after ⟨turns, chronicle⟩ _
      exact told.turns turns chronicle
  | listen change => exact fun _ => told.quiet rfl rfl rfl (UInt32.le_refl _)

end Operations

/-! ## The chronicle is right -/

variable {code : UserCode σ} {history : History σ}

theorem History.told (reachable : history.Reachable code) (calm : history.host.Calm) :
    Told history.attachedAs? history.host := by
  refine reachable.induction (motive := fun history =>
    history.host.Calm → Told history.attachedAs? history.host) ?_ ?_ calm
  · exact fun channel config memory _ => told_onChannel channel config memory
  · intro history operation reachable ih permits ends calm
    have before : history.host.Calm := (Leads.step operation .refl permits ends).calm calm
    rw [History.attachedAs?_extend]
    exact Episode.of_meets (meets_retells code (History.sound reachable) before (ih before) operation
      fun graph same => (permits.loose graph same).idle reachable) ends calm

/-- **The events determine the host.**  As long as no filter has panicked, the chronicle
that a reader who keeps up makes of the events has the loaded controllers in order, their
phases, and which streams run, and with the graph that a stream was attached with it
gives the states of its filters. -/
theorem chronicle_right (reachable : history.Reachable code) (calm : history.host.Calm) :
    (∀ (channel : Broadcast Event) (reader : ReaderId),
      channel.position? reader = some channel.items.size →
      history.host.session.journal.events.length ≤ channel.room →
      ((history.host.session.journal.events.foldl (fun channel event => (channel.send event).2)
        channel).drain reader).1.foldl Chronicle.hear {} = history.host.chronicle) ∧
    history.host.chronicle.names = history.host.controllerNames ∧
    (∀ name ∈ history.host.controllerNames,
      history.host.controllerPhase name = some (history.host.chronicle.phases name).whole ∧
      ∀ stream, history.host.controllerStreamPhase name stream =
        (history.host.chronicle.phases name).streams.find? stream) ∧
    (∀ stream, history.host.chronicle.runs stream = true ↔ history.host.Runs stream) ∧
    ∀ stream graph, history.host.stream? stream = some graph →
      ∃ first, history.attachedAs? stream = some first ∧
        graph.nodes = first.retold (history.host.chronicle.state? stream) := by
  obtain ⟨lists, shows⟩ := History.told reachable calm
  refine ⟨fun channel reader current room => ?_, lists.names, fun name member => ?_, shows.runs,
    fun stream graph attached => ?_⟩
  · rw [Broadcast.drain_sent _ current room]
    rfl
  · have loaded : (history.host.controller? name).isSome = true := by
      obtain ⟨controller, present, named⟩ := List.mem_map.mp member
      exact List.find?_isSome.mpr ⟨controller, present, decide_eq_true named⟩
    obtain ⟨controller, found⟩ := Option.isSome_iff_exists.mp loaded
    have phases : history.host.chronicle.phases name = controller.phases :=
      (lists.phases name).trans (congrArg (fun found => (found.map (·.phases)).getD {}) found)
    rw [phases]
    refine ⟨?_, fun stream => ?_⟩
    · rw [controllerPhase, found]
      rfl
    · rw [controllerStreamPhase, found]
      rfl
  · obtain ⟨first, added, _, nodes⟩ := shows.states stream graph attached
    exact ⟨first, added, nodes⟩

/-- User code of a controller that holds one filter back, and of a filter that refuses
to start. -/
def wardenCode : UserCode Unit :=
  { idleCode with
    preStart := fun _ arguments =>
      if arguments.filter = "muted" then .done .veto else .done .proceed
    filter := fun _ function _ =>
      if function = .start then .done (.error (.unknownFilter "input")) else .done (.ok ()) }

/-- A history in which, of three filters, one has started, one has failed and one has been
held back. -/
def wardenHistory : History Unit :=
  .after wardenCode { episodes := [], host := freshHost }
    [.load "warden" none { code := 0, hooks := [.preStart] } [],
      .addStream (((FilterGraph.empty.append "source" none).append "sink" (some 1)).append "muted"
        none),
      .start ⟨1⟩]

theorem wardenHistory_reachable : wardenHistory.Reachable wardenCode := by
  refine ⟨_, _, _, create_freshHost, History.leads_after _
    ⟨⟨⟨?_, nofun⟩, ?_⟩, ⟨⟨?_, ?attach⟩, ?_⟩, ⟨⟨?_, nofun⟩, ?_⟩, trivial⟩⟩
  case attach =>
    intro graph same
    cases same
    exact ((History.Loose.append .new rfl).append rfl).append rfl
  all_goals decide +kernel

/-- The chronicle tells the three apart. -/
theorem chronicle_right_warden :
    wardenHistory.host.Calm ∧ wardenHistory.host.chronicle.names = ["warden"] ∧
      wardenHistory.host.controllerStreamPhase "warden" ⟨1⟩ = some .started ∧
      (wardenHistory.host.chronicle.phases "warden").streams.find? ⟨1⟩ = some .started ∧
      wardenHistory.host.chronicle.runs ⟨1⟩ = true ∧
      ∃ first graph, wardenHistory.attachedAs? ⟨1⟩ = some first ∧
        wardenHistory.host.stream? ⟨1⟩ = some graph ∧
        graph.nodes.map (·.state) = [.started, .failed, .idle] ∧
        graph.nodes = first.retold (wardenHistory.host.chronicle.state? ⟨1⟩) := by
  have calm : wardenHistory.host.Calm := by
    decide +kernel
  have loaded : wardenHistory.host.controllerNames = ["warden"] := by
    decide +kernel
  have phase : wardenHistory.host.controllerStreamPhase "warden" ⟨1⟩ = some .started := by
    decide +kernel
  have running : wardenHistory.host.Runs ⟨1⟩ := by
    decide +kernel
  have states : (wardenHistory.host.stream? ⟨1⟩).map (·.nodes.map (·.state)) =
      some [.started, .failed, .idle] := by
    decide +kernel
  obtain ⟨_, names, phases, runs, shown⟩ := chronicle_right wardenHistory_reachable calm
  obtain ⟨graph, attached, states⟩ := Option.map_eq_some_iff.mp states
  obtain ⟨first, added, nodes⟩ := shown ⟨1⟩ graph attached
  have known := (phases "warden" (by rw [loaded]; exact List.mem_singleton.mpr rfl)).2 ⟨1⟩
  exact ⟨calm, names.trans loaded, phase, known ▸ phase, (runs ⟨1⟩).mpr running, first, graph, added,
    attached, states, nodes⟩

end Host

end StreamControl
