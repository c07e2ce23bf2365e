import StreamControl.Proofs.Agreement
import StreamControl.Proofs.Refusals
import StreamControl.Proofs.Verdicts

/-!
# Starts and stops foretold

When user code only answers, what a start and a stop of a stream come to can be
worked out from the answers: which filters are started, held back or fail
(`Verdicts.results`), what is reported (`Host.openingReport`,
`Host.closingReport`), and how the host is left.

A start or a stop does three things to the host.  Every controller takes a step,
the graph of the stream is changed, and the session becomes another, in whose
tree some filters are marked (`ParameterTree.marking`) and where some queries no
longer wait.  `Host.recast` says this of a host, and one such change after
another is again one, whatever came first.  Within a part the host is followed
through its steps, filter by filter (`Host.turned`).

`Host.brings_start` and `Host.brings_stop` are put together from these parts, in
the order in which a start and a stop do them.  How many waiting queries are answered
is known; which tickets have been claimed afterwards, and what has been counted,
is only said as far as it is needed again (`Session.Settles`).
-/

set_option autoImplicit false

namespace StreamControl

/-! ## Marking filters -/

namespace ParameterTree

/-- The filters of a stream, some of which have been marked. -/
def marked (started : Bool) (filters : List String) (known : OrderedMap String FilterEntry) :
    OrderedMap String FilterEntry :=
  known.mapValues fun filter entry => if filter ∈ filters then { entry with started } else entry

section Marked

variable (known : OrderedMap String FilterEntry)

theorem marked_nil (started : Bool) : marked started [] known = known := by
  simp only [marked, List.not_mem_nil, if_false, OrderedMap.mapValues_id]

theorem marked_append (started : Bool) (filters more : List String) :
    marked started more (marked started filters known) = marked started (filters ++ more) known := by
  rw [marked, marked, OrderedMap.mapValues_mapValues]
  refine congrArg (known.mapValues ·) (funext₂ fun filter entry => ?_)
  by_cases one : filter ∈ filters <;> by_cases two : filter ∈ more <;> simp [one, two]

/-- Of two marks the second shows. -/
theorem marked_again (first started : Bool) (filters : List String) :
    marked started filters (marked first filters known) = marked started filters known := by
  rw [marked, marked, OrderedMap.mapValues_mapValues]
  refine congrArg (known.mapValues ·) (funext₂ fun filter entry => ?_)
  by_cases here : filter ∈ filters <;> simp [here]

end Marked

variable (tree : ParameterTree) (stream : StreamId)

/-- A tree in which some filters of a stream are marked as started, or as not started. -/
def marking (started : Bool) (filters : List String) : ParameterTree :=
  { tree with streams := tree.streams.modify stream (marked started filters) }

theorem setStarted_eq {started : Bool} {filter : String}
    (known : (tree.mark? stream filter).isSome = true) :
    tree.setStarted stream filter started = .ok (tree.marking stream started [filter]) := by
  obtain ⟨entry, found⟩ := mark?_isSome_iff.mp known
  simp only [setStarted, found, bind, Except.bind, pure, Except.pure, marking, marked,
    modifyFilter, OrderedMap.modify, List.mem_singleton]

@[simp] theorem marking_nil (started : Bool) : tree.marking stream started [] = tree := by
  rw [marking, show marked started [] = fun known => known from funext (marked_nil · started),
    OrderedMap.modify_id]

theorem marking_append (started : Bool) (filters more : List String) :
    (tree.marking stream started filters).marking stream started more =
      tree.marking stream started (filters ++ more) := by
  simp only [marking, OrderedMap.modify_modify, marked_append]

theorem marking_again (first started : Bool) (filters : List String) :
    (tree.marking stream first filters).marking stream started filters =
      tree.marking stream started filters := by
  simp only [marking, OrderedMap.modify_modify, marked_again]

/-- To mark filters as they are marked already changes nothing. -/
theorem marking_of_marked {started : Bool} {filters : List String}
    (marks : ∀ filter ∈ filters, tree.mark? stream filter = some started) :
    tree.marking stream started filters = tree := by
  have same : ∀ known, tree.streams.find? stream = some known →
      marked started filters known = known := by
    intro known found
    refine (OrderedMap.mapValues_congr fun filter entry there => ?_).trans known.mapValues_id
    split
    · rename_i member
      have mark := marks filter member
      rw [mark?, found, Option.bind_some, there, Option.map_some, Option.some.injEq] at mark
      rw [← mark]
    · rfl
  rw [marking, OrderedMap.modify_congr same, OrderedMap.modify_id]

theorem find?_marking (started : Bool) (filters : List String) (owner : StreamId) :
    (tree.marking stream started filters).streams.find? owner =
      (tree.streams.find? owner).map fun known => known.mapValues fun filter entry =>
        if owner = stream ∧ filter ∈ filters then { entry with started } else entry := by
  rw [marking, OrderedMap.find?_modify]
  by_cases here : owner = stream
  · simp only [here, if_true, true_and]
    rfl
  · simp only [here, if_false, false_and, OrderedMap.mapValues_id, Option.map_id']

theorem mark?_marking (started : Bool) (filters : List String) (owner : StreamId) (name : String) :
    (tree.marking stream started filters).mark? owner name =
      (tree.mark? owner name).map fun before =>
        if owner = stream ∧ name ∈ filters then started else before := by
  rw [mark?, mark?, find?_marking]
  cases tree.streams.find? owner with
  | none => rfl
  | some known =>
    simp only [Option.map_some, Option.bind_some, OrderedMap.find?_mapValues, Option.map_map]
    refine congrArg (fun read => (known.find? name).map read) (funext fun entry => ?_)
    rw [Function.comp_apply, Function.comp_apply]
    split <;> rfl

theorem has_marking (started : Bool) (filters : List String) {owner : StreamId}
    {filter name : String} :
    (tree.marking stream started filters).Has owner filter name ↔ tree.Has owner filter name := by
  rw [has_iff, has_iff, find?_marking]
  cases tree.streams.find? owner with
  | none => simp
  | some known =>
    cases there : known.find? filter with
    | none => simp [there]
    | some entry =>
      by_cases here : owner = stream ∧ filter ∈ filters <;> simp [there, here]

/-- A query is as ready as its filter is marked. -/
theorem ready?_marking (started : Bool) (filters : List String) (query : Query) :
    query.ready? (tree.marking stream started filters) =
      (query.ready? tree).map fun before =>
        if query.stream = stream ∧ query.filter ∈ filters then started else before := by
  have same : (tree.marking stream started filters).Has query.stream query.filter query.parameter ↔
      tree.Has query.stream query.filter query.parameter := tree.has_marking stream started filters
  by_cases has : tree.Has query.stream query.filter query.parameter
  · rw [Query.ready?_of_has has, Query.ready?_of_has (same.mpr has), mark?_marking]
  · rw [Query.ready?_of_not_has has, Query.ready?_of_not_has (mt same.mp has), Option.map_none]

end ParameterTree

/-! ## Graphs that have been started -/

/-- A filter in another state. -/
def FilterSlot.at (slot : FilterSlot) (state : FilterState) : FilterSlot := { slot with state }

@[simp] theorem FilterGraph.slots_setFlow (graph : FilterGraph) (flow : Flow) :
    (graph.setFlow flow).slots = graph.slots := rfl

namespace Verdicts

open Host

variable (verdicts : Verdicts) (stream : StreamId) (controllers : List LoadedController)

/-- What comes of filters at a start. -/
def results (slots : List FilterSlot) : List (FilterSlot × StartResult) :=
  slots.map fun slot =>
    (slot, verdicts.start stream (verdicts.held stream slots [] controllers) slot)

/-- A graph that has been started. -/
def opened (graph : FilterGraph) : FilterGraph :=
  (graph.settled (verdicts.results stream controllers graph.slots)).setFlow .running

theorem fst_results (slots : List FilterSlot) :
    (verdicts.results stream controllers slots).map (·.1) = slots := by
  rw [results, List.map_map]
  exact List.map_id' slots

theorem slots_opened (graph : FilterGraph) : (verdicts.opened stream controllers graph).slots =
    graph.slots.map fun slot => slot.at
      (verdicts.start stream (verdicts.held stream graph.slots [] controllers) slot).state := by
  rw [opened, FilterGraph.slots_setFlow,
    graph.slots_settled (verdicts.fst_results stream controllers graph.slots), results, List.map_map]
  rfl

theorem failures_moved (hook : Hook) (target : Phase) (slots : List FilterSlot) :
    (controllers.map (·.moved (some stream) target)).map (verdicts.failures hook stream slots) =
      controllers.map (verdicts.failures hook stream slots) := by
  rw [List.map_map]
  rfl

end Verdicts

/-! ## Steps of filters -/

namespace Host

open StreamControl.Action Session

variable {σ : Type} {code : UserCode σ} {verdicts : Verdicts}

/-- A host in which the graph of a stream has changed and some of its filters are marked. -/
def turned (host : Host σ) (stream : StreamId) (change : FilterGraph → FilterGraph)
    (started : Bool) (filters : List String) : Host σ :=
  { host with
    streams := host.streams.modify stream change
    session := { host.session with tree := host.session.tree.marking stream started filters } }

theorem turned_id (host : Host σ) (stream : StreamId) (started : Bool) :
    host.turned stream (fun graph => graph) started [] = host := by
  rw [turned, ParameterTree.marking_nil, OrderedMap.modify_id]

theorem turned_turned (host : Host σ) (stream : StreamId) (change further : FilterGraph → FilterGraph)
    (started : Bool) (filters more : List String) :
    (host.turned stream change started filters).turned stream further started more =
      host.turned stream (fun graph => further (change graph)) started (filters ++ more) := by
  simp only [turned, OrderedMap.modify_modify, ParameterTree.marking_append]

theorem brings_modifyStream (host : Host σ) (stream : StreamId)
    (change : FilterGraph → FilterGraph) (started : Bool) :
    Brings amid host (modifyStream stream change) () (host.turned stream change started []) := by
  rw [turned, ParameterTree.marking_nil]
  exact fun traces => ⟨traces, rfl⟩

theorem KnowsSlots.turned {host : Host σ} {stream : StreamId} {slots : List FilterSlot}
    (known : host.KnowsSlots stream slots) (change : FilterGraph → FilterGraph) (started : Bool)
    (filters : List String) : (host.turned stream change started filters).KnowsSlots stream slots := by
  intro slot member
  have mark := host.session.tree.mark?_marking stream started filters stream slot.name
  change ((host.session.tree.marking stream started filters).mark? stream slot.name).isSome = true
  rw [mark, Option.isSome_map]
  exact known slot member

theorem brings_markFilter {host : Host σ} {stream : StreamId} {slot : FilterSlot}
    (known : (host.session.tree.mark? stream slot.name).isSome = true) (state : FilterState)
    (started : Bool) :
    Brings amid host (markFilter stream slot state started) ()
      (host.turned stream (·.setState slot.index state) started [slot.name]) := by
  refine (brings_modifyStream host stream _ started).bind ?_
  have marks : Brings Session.amid host.session (changeTree fun tree =>
      ((), ·) <$> tree.setStarted stream slot.name started) ()
      { host.session with tree := host.session.tree.marking stream started [slot.name] } := by
    refine brings_changeTree ?_
    rw [ParameterTree.setStarted_eq _ _ known]
    rfl
  rw [turned, ParameterTree.marking_nil]
  exact brings_onSession _ marks

theorem brings_startFilter (gives : code.Gives verdicts) {host : Host σ} {stream : StreamId}
    (held : List Nat) {slot : FilterSlot}
    (known : (host.session.tree.mark? stream slot.name).isSome = true) :
    Brings amid host (startFilter code stream held slot) (verdicts.start stream held slot)
      (host.turned stream (·.setState slot.index (verdicts.start stream held slot).state) true
        ((startedSlots [(slot, verdicts.start stream held slot)]).map (·.name))) := by
  rw [startFilter, Verdicts.start]
  split
  · exact (brings_modifyStream host stream _ true).bind (brings_pure amid _ _)
  · refine (brings_note (notes_callFilter gives (by decide) stream slot) host).bind ?_
    cases verdicts.answer .start stream slot with
    | ok value =>
      refine (brings_markFilter known .started true).bind ?_
      exact (brings_note (notes_log _ _) _).bind
        ((brings_note (notes_emit _) _).bind (brings_pure amid _ _))
    | error fault =>
      refine (brings_modifyStream host stream _ true).bind ?_
      exact (brings_note (notes_log _ _) _).bind
        ((brings_note (notes_emit _) _).bind (brings_pure amid _ _))

theorem brings_startFilters (gives : code.Gives verdicts) (stream : StreamId) (held : List Nat)
    (slots : List FilterSlot) :
    ∀ {host : Host σ}, host.KnowsSlots stream slots →
      Brings amid host (startFilters code stream held slots)
        (slots.map fun slot => (slot, verdicts.start stream held slot))
        (host.turned stream
          (·.settled (slots.map fun slot => (slot, verdicts.start stream held slot))) true
          ((startedSlots (slots.map fun slot => (slot, verdicts.start stream held slot))).map
            (·.name))) := by
  induction slots with
  | nil =>
    intro host _
    exact (congrArg (Brings amid host (pure []) []) (host.turned_id stream true)).mpr
      (brings_pure amid host [])
  | cons slot rest ih =>
    intro host known
    have first := brings_startFilter gives held (known slot List.mem_cons_self)
    have later := ih (KnowsSlots.turned (fun other member => known other (List.mem_cons_of_mem _ member))
      (·.setState slot.index (verdicts.start stream held slot).state) true
      ((startedSlots [(slot, verdicts.start stream held slot)]).map (·.name)))
    rw [turned_turned, ← List.map_append] at later
    have split : startedSlots [(slot, verdicts.start stream held slot)] ++
        startedSlots (rest.map fun slot => (slot, verdicts.start stream held slot)) =
          startedSlots ((slot :: rest).map fun slot => (slot, verdicts.start stream held slot)) := by
      rw [startedSlots, startedSlots, startedSlots, ← List.map_append, ← List.filter_append]
      rfl
    rw [split] at later
    rw [startFilters]
    exact first.bind (later.bind (brings_pure amid _ _))

theorem brings_stopFilter (gives : code.Gives verdicts) {host : Host σ} {stream : StreamId}
    {slot : FilterSlot} (known : (host.session.tree.mark? stream slot.name).isSome = true) :
    Brings amid host (stopFilter code stream slot)
      (verdicts.refusal? stream slot)
      (host.turned stream (·.setState slot.index .stopped) false [slot.name]) := by
  rw [stopFilter, Verdicts.refusal?]
  refine (brings_note (notes_callFilter gives (by decide) stream slot) host).bind ?_
  cases verdicts.answer .stop stream slot with
  | ok value =>
    refine (brings_pure amid _ _).bind ((brings_markFilter known .stopped false).bind ?_)
    exact (brings_note (notes_emit _) _).bind (brings_pure amid _ _)
  | error fault =>
    refine (brings_note (notes_log _ _) _).bind ((brings_pure amid _ _).bind ?_)
    refine (brings_markFilter known .stopped false).bind ?_
    exact (brings_note (notes_emit _) _).bind (brings_pure amid _ _)

theorem brings_stopFilters (gives : code.Gives verdicts) (stream : StreamId)
    (slots : List FilterSlot) :
    ∀ {host : Host σ}, host.KnowsSlots stream slots →
      Brings amid host (stopFilters code stream slots)
        (slots.filterMap fun slot => (verdicts.refusal? stream slot).map (slot.name, ·))
        (host.turned stream (·.halted slots) false (slots.map (·.name))) := by
  induction slots with
  | nil =>
    intro host _
    exact (congrArg (Brings amid host (pure []) []) (host.turned_id stream false)).mpr
      (brings_pure amid host [])
  | cons slot rest ih =>
    intro host known
    have first := brings_stopFilter gives (known slot List.mem_cons_self)
    have later := ih (KnowsSlots.turned (fun other member => known other (List.mem_cons_of_mem _ member))
      (·.setState slot.index .stopped) false [slot.name])
    rw [turned_turned] at later
    rw [stopFilters]
    refine first.bind (later.bind ?_)
    rw [List.filterMap_cons]
    cases verdicts.refusal? stream slot <;> exact brings_pure amid _ _

/-! ## Rounds of all controllers -/

/-- A host whose controllers have all taken a step with a stream, whose graph is another, and
so is the session. -/
def recast (host : Host σ) (stream : StreamId) (phase : Phase) (graph : FilterGraph)
    (session : Session σ) : Host σ :=
  { host with
    controllers := host.controllers.map (·.moved (some stream) phase)
    streams := host.streams.modify stream fun _ => graph
    session }

section Recast

variable {host : Host σ} {stream : StreamId} {phase : Phase} {graph : FilterGraph}
  {session : Session σ}

theorem recast_recast (further : Phase) (other : FilterGraph) (after : Session σ) :
    (host.recast stream phase graph session).recast stream further other after =
      host.recast stream further other after := by
  simp only [recast, List.map_map, Function.comp_def, LoadedController.moved_moved,
    OrderedMap.modify_modify]

theorem turned_recast (change : FilterGraph → FilterGraph) (started : Bool) (filters : List String) :
    (host.recast stream phase graph session).turned stream change started filters =
      host.recast stream phase (change graph)
        { session with tree := session.tree.marking stream started filters } := by
  simp only [turned, recast, OrderedMap.modify_modify]

theorem stream?_recast {before : FilterGraph} (attached : host.stream? stream = some before) :
    (host.recast stream phase graph session).stream? stream = some graph := by
  rw [stream?, recast, OrderedMap.find?_modify_self, show host.streams.find? stream = _ from attached,
    Option.map_some]

theorem serials_recast :
    (host.recast stream phase graph session).outline.serials = host.outline.serials :=
  List.map_map ..

/-- To let all controllers take a step is all that is done to the host. -/
theorem stepped_eq_recast (attached : host.stream? stream = some graph) {serials : List Nat}
    (all : ∀ controller ∈ host.controllers, controller.serial ∈ serials) (target : Phase) :
    host.stepped serials stream target = host.recast stream target graph host.session := by
  have controllers : (host.outline.step serials (some stream) target).controllers =
      host.controllers.map (·.moved (some stream) target) :=
    List.map_congr_left fun controller member => if_pos (all controller member)
  have streams : host.streams.modify stream (fun _ => graph) = host.streams := by
    refine (OrderedMap.modify_congr fun other found => ?_).trans (host.streams.modify_id stream)
    exact Option.some.inj (attached.symm.trans found)
  rw [stepped, recast, controllers, streams]

theorem brings_session_recast {α : Type} {action : Action (Session σ) α} {value : α}
    {after : Session σ} (brings : Brings Session.amid session action value after) :
    Brings amid (host.recast stream phase graph session) (onSession action) value
      (host.recast stream phase graph after) :=
  brings_onSession (host.recast stream phase graph session) brings

/-- All controllers have a hook called for some filters and take the step that follows. -/
theorem brings_round (gives : code.Gives verdicts) {before : FilterGraph}
    (attached : host.stream? stream = some before) (nodup : host.outline.serials.Nodup)
    (hook : Hook) {target : Phase} (allowed : phase.canBecome target = true)
    (slots : List FilterSlot) {controllers : List LoadedController}
    (all : (controllers.map (·.serial)).Perm (host.controllers.map (·.serial))) :
    Brings amid (host.recast stream phase graph session)
      (callFilterHooks code hook target stream slots controllers)
      (controllers.map (verdicts.failures hook stream slots)).sum
      (host.recast stream target graph session) := by
  have poised : Poised (host.recast stream phase graph session).outline controllers stream target := by
    refine ⟨?_, all.nodup_iff.mpr nodup, fun controller member => ?_,
      fun controller member _ => ?_⟩
    · rw [serials_recast]
      exact nodup
    · rw [serials_recast]
      exact all.mem_iff.mp (List.mem_map_of_mem member)
    · obtain ⟨old, _, rfl⟩ := List.mem_map.mp member
      rw [LoadedController.standing_moved]
      exact allowed
  have loaded : ∀ controller ∈ (host.recast stream phase graph session).controllers,
      controller.serial ∈ controllers.map (·.serial) := by
    intro controller member
    obtain ⟨old, there, rfl⟩ := List.mem_map.mp member
    exact all.mem_iff.mpr (List.mem_map_of_mem (f := (·.serial)) there)
  have brings := brings_callFilterHooks gives hook target stream slots controllers _ poised
  rw [stepped_eq_recast (stream?_recast attached) loaded, recast_recast] at brings
  exact brings

end Recast

/-! ## Starts and stops -/

/-- A host in which a stream can be started that does not run. -/
structure Restartable (host : Host σ) (stream : StreamId) (graph : FilterGraph) : Prop where
  /-- The stream is attached. -/
  attached : host.stream? stream = some graph
  /-- It does not run. -/
  idle : graph.flow = .idle
  /-- Serial numbers tell controllers apart. -/
  nodup : host.outline.serials.Nodup
  /-- Every controller can begin a cycle. -/
  ready : host.ReadyFor stream
  /-- The tree knows the filters, and none is marked as started. -/
  still : ∀ filter ∈ graph.names, host.session.tree.mark? stream filter = some false
  /-- Nobody has answered a query that waits. -/
  unanswered : host.session.Unanswered host.session.waiting

theorem brings_attached {host : Host σ} {stream : StreamId} {graph : FilterGraph}
    (found : host.stream? stream = some graph) :
    Brings amid host (attached stream) graph host := by
  refine brings_get fun traces => ?_
  rw [show (host.amid traces).stream? stream = some graph from found]
  exact brings_pure amid host graph

section Cycle

variable {host : Host σ} {stream : StreamId} {graph : FilterGraph}

/-- A session once the filters of a stream have been started. -/
def startedSession (verdicts : Verdicts) (host : Host σ) (stream : StreamId)
    (graph : FilterGraph) : Session σ :=
  { host.session with
    tree := host.session.tree.marking stream true
      ((startedSlots (verdicts.results stream host.controllers graph.slots)).map (·.name)) }

/-- What is reported of a start. -/
def openingReport (verdicts : Verdicts) (host : Host σ) (stream : StreamId) (graph : FilterGraph) :
    StartReport :=
  let results := verdicts.results stream host.controllers graph.slots
  startReport results
    (host.session.waiting.countP
      (·.2.ready? (startedSession verdicts host stream graph).tree = some true))
    (host.controllers.map (verdicts.failures .postStart stream (startedSlots results))).sum

theorem Restartable.known (restartable : host.Restartable stream graph) :
    host.KnowsSlots stream graph.slots := by
  intro slot member
  have named : slot.name ∈ graph.names := by
    rw [FilterGraph.names, ← graph.map_name_slots]
    exact List.mem_map_of_mem member
  exact Option.isSome_of_eq_some (restartable.still _ named)

theorem brings_openStart (gives : code.Gives verdicts) (restartable : host.Restartable stream graph)
    (traces : Journal × Broadcast Event) :
    Brings amid host (openStart code stream graph (host.amid traces))
      (0, verdicts.results stream host.controllers graph.slots)
      (host.recast stream .preStarted (verdicts.opened stream host.controllers graph)
        (startedSession verdicts host stream graph)) := by
  have poised : Poised host.outline host.controllers stream .preStarted :=
    ⟨restartable.nodup, restartable.nodup, fun controller member => List.mem_map_of_mem member,
      fun controller member _ => restartable.ready controller member⟩
  have polled := brings_poll gives stream graph.slots host.controllers host [] poised
  rw [stepped_eq_recast restartable.attached fun controller member =>
    List.mem_map_of_mem member] at polled
  have known : (host.recast stream .preStarted graph host.session).KnowsSlots stream graph.slots :=
    restartable.known
  have filters := brings_startFilters gives stream
    (verdicts.held stream graph.slots [] host.controllers) graph.slots known
  rw [turned_recast] at filters
  have flowing := brings_modifyStream (host.recast stream .preStarted
      (graph.settled (verdicts.results stream host.controllers graph.slots))
      (startedSession verdicts host stream graph)) stream (·.setFlow .running) true
  rw [turned_recast, ParameterTree.marking_nil] at flowing
  exact (brings_note (notes_openSpan _) _).bind
    (polled.bind (filters.bind (flowing.bind (brings_pure amid _ _))))

/-- **A start, when user code only answers.** -/
theorem brings_start (gives : code.Gives verdicts) (restartable : host.Restartable stream graph) :
    ∃ claimed tally,
      (startedSession verdicts host stream graph).Settles host.session.waiting claimed tally ∧
      Brings amid host (start code stream) (openingReport verdicts host stream graph)
        (host.recast stream .started (verdicts.opened stream host.controllers graph)
          ((startedSession verdicts host stream graph).drained claimed tally)) := by
  have unanswered : (startedSession verdicts host stream graph).Unanswered host.session.waiting :=
    ⟨restartable.unanswered.distinct, restartable.unanswered.unclaimed⟩
  obtain ⟨claimed, tally, settles, drains⟩ := brings_drain gives unanswered
  refine ⟨claimed, tally, settles, ?_⟩
  rw [start]
  refine (brings_attached restartable.attached).bind ?_
  rw [restartable.idle]
  dsimp only
  rw [startIdle_eq]
  refine brings_get fun traces => (brings_openStart gives restartable traces).bind ?_
  refine (brings_session_recast drains).bind ?_
  -- The round at the end goes over the controllers as they were when the start began.
  have told : Brings amid
      (host.recast stream .preStarted (verdicts.opened stream host.controllers graph)
        ((startedSession verdicts host stream graph).drained claimed tally))
      (closeStart code stream host.controllers
        (verdicts.results stream host.controllers graph.slots)) _ _ :=
    (brings_round gives restartable.attached restartable.nodup .postStart (by rfl) _ (.refl _)).bind
      ((brings_note (notes_log _ _) _).bind
        ((brings_note (notes_emit _) _).bind (brings_pure amid _ _)))
  refine told.bind ?_
  rw [Nat.zero_add]
  exact brings_pure amid _ _

/-- The tree once some filters of a stream have been stopped. -/
def haltedTree (stream : StreamId) (graph : FilterGraph) (session : Session σ) : ParameterTree :=
  session.tree.marking stream false ((runningSlots graph).map (·.name))

/-- A session once a stream has been stopped. -/
def stoppedSession (stream : StreamId) (graph : FilterGraph) (session : Session σ) : Session σ :=
  { session with tree := ((haltedTree stream graph session).dropUnkept stream).2 }

/-- What is reported of a stop. -/
def closingReport (verdicts : Verdicts) (controllers : List LoadedController) (stream : StreamId)
    (graph : FilterGraph) (session : Session σ) : StopReport where
  stopped := (runningSlots graph).map (·.name)
  failed := (runningSlots graph).filterMap fun slot =>
    (verdicts.refusal? stream slot).map (slot.name, ·)
  subscriptionsRemoved := ((haltedTree stream graph session).dropUnkept stream).1
  hookFailures := (controllers.map (verdicts.failures .preStop stream (runningSlots graph))).sum +
    (controllers.map (verdicts.failures .postStop stream (runningSlots graph))).sum

/-- All controllers have seen the stream start. -/
theorem witnesses_recast {session : Session σ} :
    (host.recast stream .started graph session).witnesses stream =
      (host.controllers.map (·.moved (some stream) .started)).reverse := by
  rw [witnesses, recast]
  refine List.filter_eq_self.mpr fun controller member => ?_
  obtain ⟨old, _, rfl⟩ := List.mem_map.mp (List.mem_reverse.mp member)
  rw [LoadedController.find?_moved, if_pos rfl]
  exact decide_eq_true rfl

/-- The last loaded are told first, but the failures are the same. -/
theorem sum_failures_reverse (controllers : List LoadedController) (hook : Hook)
    (slots : List FilterSlot) (target : Phase) :
    ((controllers.map (·.moved (some stream) target)).reverse.map
        (verdicts.failures hook stream slots)).sum =
      (controllers.map (verdicts.failures hook stream slots)).sum := by
  rw [List.map_reverse, List.sum_reverse, verdicts.failures_moved]

/-- **A stop, when user code only answers.** -/
theorem brings_stop (gives : code.Gives verdicts) {before : FilterGraph} {session : Session σ}
    (attached : host.stream? stream = some before) (nodup : host.outline.serials.Nodup)
    (running : graph.flow = .running)
    (known : ∀ slot ∈ graph.slots, (session.tree.mark? stream slot.name).isSome = true)
    (unanswered : session.Unanswered session.waiting) :
    ∃ claimed tally,
      (stoppedSession stream graph session).Settles session.waiting claimed tally ∧
      Brings amid (host.recast stream .started graph session) (stop code stream)
        (closingReport verdicts host.controllers stream graph session)
        (host.recast stream .stopped ((graph.halted (runningSlots graph)).setFlow .idle)
          ((stoppedSession stream graph session).drained claimed tally)) := by
  have still : (stoppedSession stream graph session).Unanswered session.waiting :=
    ⟨unanswered.distinct, unanswered.unclaimed⟩
  obtain ⟨claimed, tally, settles, drains⟩ := brings_drain gives still
  refine ⟨claimed, tally, settles, ?_⟩
  have all : ((host.controllers.map (·.moved (some stream) .started)).reverse.map (·.serial)).Perm
      (host.controllers.map (·.serial)) := by
    rw [List.map_reverse, List.map_map]
    exact List.reverse_perm _
  have slotsKnown : (host.recast stream .preStopped graph session).KnowsSlots stream
      (runningSlots graph) := fun slot member => known slot (List.mem_filter.mp member).1
  have filters := brings_stopFilters gives stream (runningSlots graph) slotsKnown
  rw [turned_recast] at filters
  have resting := brings_modifyStream (host.recast stream .preStopped
      (graph.halted (runningSlots graph)) { session with tree := haltedTree stream graph session })
    stream (·.setFlow .idle) false
  rw [turned_recast, ParameterTree.marking_nil] at resting
  have drops : Brings Session.amid { session with tree := haltedTree stream graph session }
      (Session.changeTree fun tree => .ok (tree.dropUnkept stream))
      ((haltedTree stream graph session).dropUnkept stream).1
      (stoppedSession stream graph session) :=
    brings_changeTree rfl
  rw [stop]
  refine (brings_attached (stream?_recast attached)).bind ?_
  rw [running]
  dsimp only
  rw [stopRunning]
  refine brings_get fun traces => (brings_note (notes_openSpan _) _).bind ?_
  rw [show ((host.recast stream .started graph session).amid traces).witnesses stream = _ from
    witnesses_recast]
  refine (brings_round gives attached nodup .preStop (by rfl) _ all).bind ?_
  refine filters.bind (resting.bind ?_)
  refine (brings_round gives attached nodup .postStop (by rfl) _ all).bind ?_
  refine (brings_session_recast drops).bind ((brings_session_recast drains).bind ?_)
  refine (brings_note (notes_log _ _) _).bind ((brings_note (notes_emit _) _).bind ?_)
  rw [sum_failures_reverse, sum_failures_reverse]
  exact brings_pure amid _ _

end Cycle

end Host

end StreamControl
