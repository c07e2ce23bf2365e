import StreamControl.Proofs.Foretold

/-!
# Starting and stopping again

A stream that has been started and stopped has come to rest: another start and
stop leave everything as it is.  The filters may have been in any state before,
some controllers may never have seen the stream start, queries may wait and
callbacks be subscribed.  One start and one stop deal with all of it, for three
reasons.

* A start takes no notice of what the filters were doing, nor of how far the
  controllers had come.  So the same filters start again, the same are held back
  and the same fail, and the graph is in the end what it was
  (`Verdicts.cycled_cycled`).
* A stop takes back all marks that the start has made
  (`Host.Restartable.haltedTree`).  The tree then only lacks the subscriptions
  that do not stay, and of those a second stop finds none
  (`ParameterTree.dropUnkept_again`).
* A query that still waits is for a filter that the start left alone.  The second
  start leaves it alone as well, so that the query is not answered then either
  (`Host.idle_again`).

`Host.cycled` is the host that a cycle leaves and `Host.cycled_again` says that a
cycle leaves the same host a second time.  `Host.cycle_idempotent` puts this
together for a host with any history.
-/

set_option autoImplicit false

namespace StreamControl

/-! ## Subscriptions -/

/-- What does not stay when a stream stops does not stay when it stops again. -/
theorem Parameter.stopped_stopped (parameter : Parameter) :
    parameter.stopped.stopped = parameter.stopped := by
  simp only [stopped, List.filter_filter, Bool.and_self]

namespace ParameterTree

variable (tree : ParameterTree) (stream : StreamId)

/-- Nothing is left to remove by a second stop. -/
theorem dropUnkept_again :
    (tree.dropUnkept stream).2.dropUnkept stream = (0, (tree.dropUnkept stream).2) := by
  have same : ((tree.dropUnkept stream).2.dropUnkept stream).2 = (tree.dropUnkept stream).2 := by
    simp only [dropUnkept, OrderedMap.modify_modify, OrderedMap.mapValues_mapValues,
      Parameter.stopped_stopped]
  refine Prod.ext ?_ same
  change (tree.dropUnkept stream).2.subscriptionsOf stream -
    ((tree.dropUnkept stream).2.dropUnkept stream).2.subscriptionsOf stream = 0
  rw [same, Nat.sub_self]

end ParameterTree

/-! ## Graphs that have been started and stopped -/

namespace FilterGraph

variable (graph : FilterGraph)

/-- A graph is told by its filters in their places, its links, and whether it runs. -/
theorem ext_slots {graph other : FilterGraph} (slots : graph.slots = other.slots)
    (links : graph.links = other.links) (flow : graph.flow = other.flow)
    (nextAuto : graph.nextAuto = other.nextAuto) : graph = other := by
  have nodes (graph : FilterGraph) : graph.nodes =
      graph.slots.map fun slot => { name := slot.name, code := slot.code, state := slot.state } := by
    refine List.ext_getElem? fun position => ?_
    rw [slots_eq, List.getElem?_map, List.getElem?_mapIdx, Option.map_map]
    exact Option.map_id'.symm
  have same : graph.nodes = other.nodes := by rw [nodes graph, nodes other, slots]
  cases graph
  cases other
  simp only at same links flow nextAuto
  subst same links flow nextAuto
  rfl

theorem links_halted (slots : List FilterSlot) : (graph.halted slots).links = graph.links := by
  induction slots generalizing graph with
  | nil => rfl
  | cons slot rest ih => exact ih _

theorem nextAuto_settled (results : List (FilterSlot × StartResult)) :
    (graph.settled results).nextAuto = graph.nextAuto := by
  induction results generalizing graph with
  | nil => rfl
  | cons result rest ih => exact ih _

theorem nextAuto_halted (slots : List FilterSlot) :
    (graph.halted slots).nextAuto = graph.nextAuto := by
  induction slots generalizing graph with
  | nil => rfl
  | cons slot rest ih => exact ih _

/-- When a stream stops, the filters that are started are stopped. -/
theorem slots_halted_runningSlots :
    (graph.halted (Host.runningSlots graph)).slots = graph.slots.map fun slot =>
      if slot.state = .started then slot.at .stopped else slot := by
  refine List.ext_getElem? fun position => ?_
  rw [slots_eq, slots_eq, nodes_halted_runningSlots, List.getElem?_mapIdx, List.getElem?_map,
    List.getElem?_map, List.getElem?_mapIdx, Option.map_map, Option.map_map]
  refine congrArg (fun change => graph.nodes[position]?.map change) (funext fun node => ?_)
  by_cases started : node.state = .started <;>
    simp [slotOf, inputs, outputs, links_halted, FilterSlot.at, started]

end FilterGraph

namespace Verdicts

open Host

variable (verdicts : Verdicts) (stream : StreamId) (controllers : List LoadedController)

/-- A graph that has been started and stopped. -/
def cycled (graph : FilterGraph) : FilterGraph :=
  ((verdicts.opened stream controllers graph).halted
    (runningSlots (verdicts.opened stream controllers graph))).setFlow .idle

/-! ### What the filters were doing before does not matter -/

variable (doing : FilterSlot → FilterState) (slots : List FilterSlot)

theorem held_at (held : List Nat) :
    verdicts.held stream (slots.map fun slot => slot.at (doing slot)) held controllers =
      verdicts.held stream slots held controllers := by
  simp only [Verdicts.held, List.foldl_map]
  rfl

theorem results_at :
    verdicts.results stream controllers (slots.map fun slot => slot.at (doing slot)) =
      (verdicts.results stream controllers slots).map fun result =>
        (result.1.at (doing result.1), result.2) := by
  simp only [results, held_at, List.map_map]
  rfl

theorem failures_at (hook : Hook) (controller : LoadedController) :
    verdicts.failures hook stream (slots.map fun slot => slot.at (doing slot)) controller =
      verdicts.failures hook stream slots controller := by
  simp only [failures, List.countP_map]
  rfl

theorem startedSlots_at (results : List (FilterSlot × StartResult)) :
    startedSlots (results.map fun result => (result.1.at (doing result.1), result.2)) =
      (startedSlots results).map fun slot => slot.at (doing slot) := by
  simp only [startedSlots, List.filter_map, List.map_map]
  rfl

theorem startReport_at (results : List (FilterSlot × StartResult)) (answered failures : Nat) :
    startReport (results.map fun result => (result.1.at (doing result.1), result.2)) answered
      failures = startReport results answered failures := by
  have faults : startFault? ∘ (fun result : FilterSlot × StartResult =>
      (result.1.at (doing result.1), result.2)) = startFault? := by
    funext ⟨slot, result⟩
    cases result <;> rfl
  simp only [startReport, startedSlots_at, List.map_map, List.filter_map, List.filterMap_map, faults]
  rfl

/-! ### Nor does it matter that the controllers have taken steps -/

theorem results_moved (target : Phase) :
    verdicts.results stream (controllers.map (·.moved (some stream) target)) slots =
      verdicts.results stream controllers slots := by
  simp only [results, Verdicts.held, List.foldl_map]
  rfl

/-! ### Graphs -/

variable (graph : FilterGraph)

theorem exists_slots_cycled : ∃ doing : FilterSlot → FilterState,
    (verdicts.cycled stream controllers graph).slots =
      graph.slots.map fun slot => slot.at (doing slot) := by
  refine ⟨fun slot =>
    let state := (verdicts.start stream (verdicts.held stream graph.slots [] controllers) slot).state
    if state = .started then .stopped else state, ?_⟩
  rw [cycled, FilterGraph.slots_setFlow, FilterGraph.slots_halted_runningSlots, slots_opened,
    List.map_map]
  refine List.map_congr_left fun slot _ => ?_
  rw [Function.comp_apply]
  by_cases started : (verdicts.start stream (verdicts.held stream graph.slots [] controllers)
    slot).state = .started <;> simp [FilterSlot.at, started]

/-- A second start comes to the same for every filter as the first. -/
theorem exists_results_cycled (target : Phase) : ∃ doing : FilterSlot → FilterState,
    verdicts.results stream (controllers.map (·.moved (some stream) target))
        (verdicts.cycled stream controllers graph).slots =
      (verdicts.results stream controllers graph.slots).map fun result =>
        (result.1.at (doing result.1), result.2) := by
  obtain ⟨doing, slots⟩ := verdicts.exists_slots_cycled stream controllers graph
  exact ⟨doing, by rw [slots, results_at, results_moved]⟩

/-- Started once more, a graph is as it was when it was started before. -/
theorem opened_cycled (target : Phase) :
    verdicts.opened stream (controllers.map (·.moved (some stream) target))
        (verdicts.cycled stream controllers graph) =
      verdicts.opened stream controllers graph := by
  have flow (graph : FilterGraph) : (verdicts.opened stream controllers graph).flow = .running := rfl
  have links (graph : FilterGraph) :
      (verdicts.opened stream controllers graph).links = graph.links := FilterGraph.links_settled _ _
  have nextAuto (graph : FilterGraph) :
      (verdicts.opened stream controllers graph).nextAuto = graph.nextAuto :=
    FilterGraph.nextAuto_settled _ _
  have moved : verdicts.opened stream (controllers.map (·.moved (some stream) target)) =
      verdicts.opened stream controllers := by
    funext graph
    rw [opened, opened, results_moved]
  obtain ⟨doing, cycled⟩ := verdicts.exists_slots_cycled stream controllers graph
  rw [moved]
  refine FilterGraph.ext_slots ?_ ?_ ((flow _).trans (flow _).symm) ?_
  · rw [slots_opened, slots_opened, cycled, held_at, List.map_map]
    exact List.map_congr_left fun slot _ => rfl
  · rw [links]
    exact FilterGraph.links_halted _ _
  · rw [nextAuto]
    exact FilterGraph.nextAuto_halted _ _

/-- A second start and stop leave a graph as the first did. -/
theorem cycled_cycled (target : Phase) :
    verdicts.cycled stream (controllers.map (·.moved (some stream) target))
        (verdicts.cycled stream controllers graph) =
      verdicts.cycled stream controllers graph := by
  rw [cycled, opened_cycled]
  rfl

theorem names_cycled : (verdicts.cycled stream controllers graph).names = graph.names :=
  (FilterGraph.names_halted _ _).trans (FilterGraph.names_settled _ _)

end Verdicts

/-! ## The second time -/

namespace Host

open StreamControl.Action Session

variable {σ : Type} {code : UserCode σ} {verdicts : Verdicts}

section Cycle

variable {host : Host σ} {stream : StreamId} {graph : FilterGraph}

/-- Starts a stream and stops it. -/
def cycle (code : UserCode σ) (stream : StreamId) : Action (Host σ) (StartReport × StopReport) := do
  let started ← start code stream
  let stopped ← stop code stream
  return (started, stopped)

/-- A session once a stream has been started and stopped. -/
def cycledSession (verdicts : Verdicts) (host : Host σ) (stream : StreamId) (graph : FilterGraph)
    (claimed : List Nat) (tally : Tally) : Session σ :=
  { host.session with
    tree := (host.session.tree.dropUnkept stream).2
    waiting := (host.session.waiting.filter
      (·.2.ready? (startedSession verdicts host stream graph).tree = some false)).filter
        (·.2.ready? (host.session.tree.dropUnkept stream).2 = some false)
    claimed, tally }

/-- A host in which a stream has been started and stopped. -/
def cycled (verdicts : Verdicts) (host : Host σ) (stream : StreamId) (graph : FilterGraph)
    (claimed : List Nat) (tally : Tally) : Host σ :=
  host.recast stream .stopped (verdicts.cycled stream host.controllers graph)
    (cycledSession verdicts host stream graph claimed tally)

/-- A stop takes back the marks that the start before it made. -/
theorem Restartable.haltedTree (restartable : host.Restartable stream graph) :
    haltedTree stream (verdicts.opened stream host.controllers graph)
      (startedSession verdicts host stream graph) = host.session.tree := by
  have all := verdicts.fst_results stream host.controllers graph.slots
  rw [Host.haltedTree, Verdicts.opened, names_runningSlots_settled all, startedSession]
  refine (ParameterTree.marking_again _ _ _ _ _).trans ?_
  refine ParameterTree.marking_of_marked _ _ fun filter member => restartable.still filter ?_
  obtain ⟨slot, started, rfl⟩ := List.mem_map.mp member
  obtain ⟨result, among, rfl⟩ := List.mem_map.mp started
  rw [FilterGraph.names, ← graph.map_name_slots, ← all, List.map_map]
  exact List.mem_map_of_mem (f := fun result => result.1.name) (List.mem_filter.mp among).1

/-- **A start and a stop, when user code only answers.**  If all queries that wait go on waiting,
no claim is made and no outcome is counted. -/
theorem brings_cycle (gives : code.Gives verdicts) (restartable : host.Restartable stream graph) :
    ∃ claimed tally,
      (cycledSession verdicts host stream graph claimed tally).Unanswered
        (cycledSession verdicts host stream graph claimed tally).waiting ∧
      ((∀ item ∈ host.session.waiting,
          item.2.ready? (startedSession verdicts host stream graph).tree = some false ∧
          item.2.ready? (host.session.tree.dropUnkept stream).2 = some false) →
        claimed = host.session.claimed ∧ tally = host.session.tally) ∧
      Brings amid host (cycle code stream)
        (openingReport verdicts host stream graph,
          closingReport verdicts host.controllers stream
            (verdicts.opened stream host.controllers graph)
            (startedSession verdicts host stream graph))
        (cycled verdicts host stream graph claimed tally) := by
  obtain ⟨claimed, tally, settles, starts⟩ := brings_start gives restartable
  have waits : (startedSession verdicts host stream graph).Unanswered host.session.waiting :=
    ⟨restartable.unanswered.distinct, restartable.unanswered.unclaimed⟩
  have unanswered := Unanswered.drained waits settles
  have known : ∀ slot ∈ (verdicts.opened stream host.controllers graph).slots,
      (((startedSession verdicts host stream graph).drained claimed tally).tree.mark? stream
        slot.name).isSome = true := by
    intro slot member
    rw [verdicts.slots_opened stream host.controllers graph] at member
    obtain ⟨old, there, rfl⟩ := List.mem_map.mp member
    exact restartable.known.turned (fun graph => graph) true _ old there
  obtain ⟨claimed', tally', settles', stops⟩ := brings_stop gives restartable.attached
    restartable.nodup rfl known unanswered
  have tree : (stoppedSession stream (verdicts.opened stream host.controllers graph)
      ((startedSession verdicts host stream graph).drained claimed tally)).tree =
        (host.session.tree.dropUnkept stream).2 :=
    congrArg (fun tree => (tree.dropUnkept stream).2) restartable.haltedTree
  have session : (stoppedSession stream (verdicts.opened stream host.controllers graph)
      ((startedSession verdicts host stream graph).drained claimed tally)).drained claimed' tally' =
        cycledSession verdicts host stream graph claimed' tally' := by
    rw [Session.drained, tree]
    rfl
  have still : (stoppedSession stream (verdicts.opened stream host.controllers graph)
      ((startedSession verdicts host stream graph).drained claimed tally)).Unanswered
        ((startedSession verdicts host stream graph).drained claimed tally).waiting :=
    ⟨unanswered.distinct, unanswered.unclaimed⟩
  refine ⟨claimed', tally', ?_, fun idle => ?_, ?_⟩
  · rw [← session]
    exact Unanswered.drained still settles'
  · obtain ⟨sameClaims, sameTally⟩ := settles.idle fun item member => by
      rw [(idle item member).1]
      nofun
    obtain ⟨sameClaims', sameTally'⟩ := settles'.idle fun item member => by
      rw [tree, (idle item (List.mem_filter.mp member).1).2]
      nofun
    exact ⟨sameClaims'.trans sameClaims, sameTally'.trans sameTally⟩
  · rw [session] at stops
    exact starts.bind (stops.bind (brings_pure amid _ _))

section Again

variable {claimed : List Nat} {tally : Tally}

theorem controllers_cycled : (cycled verdicts host stream graph claimed tally).controllers =
    host.controllers.map (·.moved (some stream) .stopped) := rfl

theorem dropUnkept_cycled :
    (cycled verdicts host stream graph claimed tally).session.tree.dropUnkept stream =
      (0, (host.session.tree.dropUnkept stream).2) :=
  host.session.tree.dropUnkept_again stream

/-- It can be started once more. -/
theorem Restartable.again (restartable : host.Restartable stream graph)
    (unanswered : (cycledSession verdicts host stream graph claimed tally).Unanswered
      (cycledSession verdicts host stream graph claimed tally).waiting) :
    (cycled verdicts host stream graph claimed tally).Restartable stream
      (verdicts.cycled stream host.controllers graph) where
  attached := stream?_recast restartable.attached
  idle := rfl
  nodup := by
    rw [cycled, serials_recast]
    exact restartable.nodup
  ready controller member := by
    obtain ⟨old, _, rfl⟩ := List.mem_map.mp member
    rw [LoadedController.standing_moved]
    rfl
  still filter member := by
    rw [verdicts.names_cycled] at member
    have kept := (host.session.tree.kept_dropUnkept stream).mark stream filter
    exact kept.trans (restartable.still filter member)
  unanswered := unanswered

/-- The same filters start again, and their queries have been answered. -/
theorem idle_again {item : Nat × Query}
    (waits : item ∈ (cycledSession verdicts host stream graph claimed tally).waiting) :
    item.2.ready? (startedSession verdicts (cycled verdicts host stream graph claimed tally) stream
        (verdicts.cycled stream host.controllers graph)).tree = some false ∧
      item.2.ready? ((cycled verdicts host stream graph claimed tally).session.tree.dropUnkept
        stream).2 = some false := by
  obtain ⟨passed, rested⟩ := List.mem_filter.mp waits
  replace passed := (List.mem_filter.mp passed).2
  rw [decide_eq_true_eq] at rested passed
  constructor
  · obtain ⟨doing, results⟩ :=
      verdicts.exists_results_cycled stream host.controllers graph .stopped
    have names : (startedSlots (verdicts.results stream
          (cycled verdicts host stream graph claimed tally).controllers
          (verdicts.cycled stream host.controllers graph).slots)).map (·.name) =
        (startedSlots (verdicts.results stream host.controllers graph.slots)).map (·.name) := by
      rw [cycled, recast, results, Verdicts.startedSlots_at, List.map_map]
      rfl
    -- Had the start marked the filter, the drain after it would not have passed the query over.
    rw [startedSession, ParameterTree.ready?_marking] at passed
    rw [startedSession, ParameterTree.ready?_marking, names]
    change (item.2.ready? (host.session.tree.dropUnkept stream).2).map _ = some false
    obtain ⟨before, _, unmarked⟩ := Option.map_eq_some_iff.mp passed
    rw [rested, Option.map_some]
    split
    · rename_i marked
      rw [if_pos marked] at unmarked
      cases unmarked
    · rfl
  · rw [dropUnkept_cycled]
    exact rested

/-- The second start reports what the first did, but answers no query. -/
theorem openingReport_cycled :
    openingReport verdicts (cycled verdicts host stream graph claimed tally) stream
        (verdicts.cycled stream host.controllers graph) =
      { openingReport verdicts host stream graph with answered := 0 } := by
  have none : (cycledSession verdicts host stream graph claimed tally).waiting.countP
      (·.2.ready? (startedSession verdicts (cycled verdicts host stream graph claimed tally) stream
        (verdicts.cycled stream host.controllers graph)).tree = some true) = 0 := by
    refine List.countP_eq_zero.mpr fun item waits => ?_
    rw [(idle_again waits).1]
    exact Bool.false_ne_true
  obtain ⟨doing, results⟩ := verdicts.exists_results_cycled stream host.controllers graph .stopped
  have failures : ((host.controllers.map (·.moved (some stream) .stopped)).map
        (verdicts.failures .postStart stream
          ((startedSlots (verdicts.results stream host.controllers graph.slots)).map fun slot =>
            slot.at (doing slot)))) =
      host.controllers.map (verdicts.failures .postStart stream
        (startedSlots (verdicts.results stream host.controllers graph.slots))) := by
    rw [verdicts.failures_moved]
    exact List.map_congr_left fun controller _ => verdicts.failures_at stream doing _ _ controller
  rw [openingReport]
  dsimp only
  rw [show (cycled verdicts host stream graph claimed tally).session.waiting =
    (cycledSession verdicts host stream graph claimed tally).waiting from rfl, none,
    controllers_cycled, results, Verdicts.startReport_at, Verdicts.startedSlots_at, failures]
  rfl

/-- The second stop reports what the first did, but removes no subscription. -/
theorem closingReport_cycled (again : (cycled verdicts host stream graph claimed tally).Restartable
      stream (verdicts.cycled stream host.controllers graph)) :
    closingReport verdicts (cycled verdicts host stream graph claimed tally).controllers stream
        (verdicts.opened stream (cycled verdicts host stream graph claimed tally).controllers
          (verdicts.cycled stream host.controllers graph))
        (startedSession verdicts (cycled verdicts host stream graph claimed tally) stream
          (verdicts.cycled stream host.controllers graph)) =
      { closingReport verdicts host.controllers stream
          (verdicts.opened stream host.controllers graph)
          (startedSession verdicts host stream graph) with subscriptionsRemoved := 0 } := by
  rw [closingReport, again.haltedTree, dropUnkept_cycled, controllers_cycled,
    verdicts.opened_cycled, verdicts.failures_moved, verdicts.failures_moved]
  rfl

/-- A second cycle leaves the session as the first did. -/
theorem cycledSession_again : cycledSession verdicts (cycled verdicts host stream graph claimed tally)
      stream (verdicts.cycled stream host.controllers graph) claimed tally =
    cycledSession verdicts host stream graph claimed tally := by
  have waiting : ((cycledSession verdicts host stream graph claimed tally).waiting.filter
        (·.2.ready? (startedSession verdicts (cycled verdicts host stream graph claimed tally) stream
          (verdicts.cycled stream host.controllers graph)).tree = some false)).filter
        (·.2.ready? ((cycled verdicts host stream graph claimed tally).session.tree.dropUnkept
          stream).2 = some false) =
      (cycledSession verdicts host stream graph claimed tally).waiting := by
    rw [List.filter_filter]
    refine List.filter_eq_self.mpr fun item waits => ?_
    obtain ⟨passed, rested⟩ := idle_again waits
    rw [passed, rested]
    rfl
  rw [dropUnkept_cycled] at waiting
  rw [cycledSession, dropUnkept_cycled]
  exact congrArg (fun waiting => { cycledSession verdicts host stream graph claimed tally with
    waiting }) waiting

/-- A second cycle leaves the host as the first did. -/
theorem cycled_again : cycled verdicts (cycled verdicts host stream graph claimed tally) stream
      (verdicts.cycled stream host.controllers graph) claimed tally =
    cycled verdicts host stream graph claimed tally := by
  rw [cycled, cycledSession_again, controllers_cycled, verdicts.cycled_cycled]
  exact recast_recast _ _ _

end Again

/-- **A second cycle repeats the first.**  It reports the same, but answers no query and removes
no subscription, and leaves the same host, but for traces. -/
theorem brings_cycle_again (gives : code.Gives verdicts)
    (restartable : host.Restartable stream graph) :
    ∃ started stopped after,
      Brings amid host (cycle code stream) (started, stopped) after ∧
      Brings amid after (cycle code stream)
        ({ started with answered := 0 }, { stopped with subscriptionsRemoved := 0 }) after := by
  obtain ⟨claimed, tally, unanswered, _, first⟩ := brings_cycle gives restartable
  have again := restartable.again unanswered
  obtain ⟨claimed', tally', _, idle, second⟩ := brings_cycle gives again
  -- Nothing that waits is due, so the second cycle claims nothing and counts nothing.
  obtain ⟨sameClaims, sameTally⟩ := idle fun item waits => idle_again waits
  obtain rfl : claimed' = claimed := sameClaims
  obtain rfl : tally' = tally := sameTally
  rw [openingReport_cycled, closingReport_cycled again, cycled_again] at second
  exact ⟨_, _, _, first, second⟩

end Cycle

/-! ## After any history -/

/-- As long as no filter has panicked, every stream that does not run can be started. -/
theorem History.restartable {earlier : UserCode σ} {history : History σ}
    (reachable : history.Reachable earlier) (calm : history.host.Calm) {stream : StreamId}
    {graph : FilterGraph} (attached : history.host.stream? stream = some graph)
    (idle : graph.flow = .idle) : history.host.Restartable stream graph where
  attached := attached
  idle := idle
  nodup := (History.sound reachable).nodup
  ready := (History.sound reachable).ready calm (not_runs_of_idle attached idle)
  still filter member := by
    have sound := History.sound reachable
    have unmarked : history.host.session.tree.mark? stream filter ≠ some true := fun marked =>
      not_running (not_runs_of_idle attached idle)
        (((History.tidy reachable calm).marked stream filter).mp marked)
    rw [FilterGraph.names, ← graph.map_name_slots] at member
    obtain ⟨slot, there, rfl⟩ := List.mem_map.mp member
    have known : (history.host.session.tree.mark? stream slot.name).isSome = true :=
      sound.knowsSlots stream graph attached slot there
    obtain ⟨mark, marked⟩ := Option.isSome_iff_exists.mp known
    cases mark with
    | true => exact absurd marked unmarked
    | false => exact marked
  unanswered := by
    have ledger := History.ledger reachable
    exact ⟨ledger.distinct, fun item waits => (ledger.pending item waits).2.2⟩

/-- **To restart a stream twice is to restart it once.**  Take any host, as long as no filter has
panicked, and any attached stream that does not run; filters may never have been started, or be
stopped or failed, controllers may be new to the stream or have seen it before, queries may wait
and subscriptions be there.  If hooks, filter functions and callbacks only answer, then the
stream is started and stopped, and so it is a second time.  The second time no waiting query is
answered and no subscription removed; the reports are the same in all else; and nothing about
the host has changed but what has been written in the journal and sent to the channel. -/
theorem cycle_idempotent {earlier code : UserCode σ} {history : History σ}
    (reachable : history.Reachable earlier) (calm : history.host.Calm) {verdicts : Verdicts}
    (gives : code.Gives verdicts) {stream : StreamId} {graph : FilterGraph}
    (attached : history.host.stream? stream = some graph) (idle : graph.flow = .idle) :
    ∃ started stopped first second journal channel,
      cycle code stream history.host = (.returned (started, stopped), first) ∧
      cycle code stream first = (.returned ({ started with answered := 0 },
        { stopped with subscriptionsRemoved := 0 }), second) ∧
      second = { first with session := { first.session with journal, channel } } := by
  obtain ⟨started, stopped, after, one, two⟩ :=
    brings_cycle_again gives (History.restartable reachable calm attached idle)
  obtain ⟨traces, begun⟩ :=
    one (history.host.session.journal, history.host.session.channel)
  obtain ⟨traces', ended⟩ := two traces
  exact ⟨started, stopped, _, _, traces'.1, traces'.2, begun, ended, rfl⟩

/-- What the filters and the controllers of a small stream always answer: one filter is held
back, another cannot be started, and a third refuses to stop; a postStop hook fails. -/
def motleyVerdicts : Verdicts where
  callback _ _ := 0
  preStart _ arguments := if arguments.filter = "held" then .veto else .proceed
  filterHook _ hook _ := if hook = .postStop then .failed 7 else .ok
  filter reference function _ :=
    match function, reference with
    | .start, 1 => .error (.unknownFilter "input")
    | .stop, 0 => .error (.unknownFilter "output")
    | _, _ => .ok ()

/-- User code that gives these answers, and creates a parameter when the stream is attached. -/
def motleyCode : UserCode Unit :=
  { gainCode with
    preStart := fun reference arguments => .done (motleyVerdicts.preStart reference arguments)
    filterHook := fun reference hook arguments =>
      .done (motleyVerdicts.filterHook reference hook arguments)
    filter := fun reference function context =>
      match function, reference with
      | .construct, 0 => gainCode.filter reference .construct context
      | _, _ => .done (motleyVerdicts.filter reference function context) }

/-- A stream is started and stopped; then its parameter is subscribed to and asked for, and
another controller is loaded. -/
def motleyHistory : History Unit :=
  .after motleyCode { episodes := [], host := freshHost }
    [.load "early" none { code := 0, hooks := [.preStart, .postStop] } [],
      .addStream (((FilterGraph.empty.append "source" (some 0)).append "sink" (some 1)).append
        "held" none),
      .start ⟨1⟩, .stop ⟨1⟩,
      .outside (.ask (.subscribe ⟨1⟩ "source" (some "gain") .bool { code := 0 } {} {}) fun _ =>
        .ask (.query (gainQuery ⟨1⟩)) fun _ => .done ()),
      .load "late" none { code := 1, hooks := [.postStart] } []]

theorem motleyHistory_reachable : motleyHistory.Reachable motleyCode := by
  refine ⟨_, _, _, create_freshHost, History.leads_after _ ⟨⟨⟨?_, nofun⟩, ?_⟩,
    ⟨⟨?_, ?attach⟩, ?_⟩, ⟨⟨?_, nofun⟩, ?_⟩, ⟨⟨?_, nofun⟩, ?_⟩, ⟨⟨?_, nofun⟩, ?_⟩,
    ⟨⟨?_, nofun⟩, ?_⟩, trivial⟩⟩
  case attach =>
    intro graph same
    cases same
    exact ((History.Loose.append .new rfl).append rfl).append rfl
  all_goals decide +kernel

/-- The graph of the stream at the end: every filter is in a state of its own. -/
def motleyGraph : FilterGraph where
  nodes := [{ name := "source", code := some 0, state := .stopped },
    { name := "sink", code := some 1, state := .failed }, { name := "held", code := none }]

theorem motleyCode_gives : motleyCode.Gives motleyVerdicts where
  nests := by decide
  callback _ _ := rfl
  preStart _ _ := rfl
  filterHook _ _ _ := rfl
  filter reference function context other := by
    cases function with
    | construct => exact absurd rfl other
    | start | stop => rfl

/-- A stream whose filters are stopped, failed and idle, with a query that waits, a subscription
that does not stay, and two controllers of which one has never seen it start. -/
theorem cycle_idempotent_motley :
    motleyHistory.host.Calm ∧ motleyHistory.host.stream? ⟨1⟩ = some motleyGraph ∧
      motleyHistory.host.session.waiting = [(0, gainQuery ⟨1⟩)] ∧
      motleyHistory.host.session.tree.subscriptionsOf ⟨1⟩ = 1 ∧
      motleyHistory.host.controllers.map (·.streamPhases.find? ⟨1⟩) = [some .stopped, none] ∧
      ∃ started stopped first second journal channel,
        cycle motleyCode ⟨1⟩ motleyHistory.host = (.returned (started, stopped), first) ∧
        cycle motleyCode ⟨1⟩ first = (.returned ({ started with answered := 0 },
          { stopped with subscriptionsRemoved := 0 }), second) ∧
        second = { first with session := { first.session with journal, channel } } := by
  have calm : motleyHistory.host.Calm := by
    decide +kernel
  have attached : motleyHistory.host.stream? ⟨1⟩ = some motleyGraph := by
    decide +kernel
  refine ⟨calm, attached, ?_, ?_, ?_,
    cycle_idempotent motleyHistory_reachable calm motleyCode_gives attached rfl⟩
  all_goals decide +kernel

end Host

end StreamControl
