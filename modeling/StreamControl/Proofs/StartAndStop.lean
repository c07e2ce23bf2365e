import StreamControl.Proofs.History
import StreamControl.Proofs.Outline

/-!
# What starts and stops come to

One rule each for starting and for stopping a stream: which calls are made, in
which order, and what the outline of the host is afterwards.  A start that is
not refused goes through the controllers twice and through the filters once,
and so does a stop.  What came of each filter is given as a list of results,
and the outline is computed from it.

Only the function of a filter can make either panic, and then what had been
done by that time has been done: the controllers have taken their first step
and some filters, from the front, have been started or stopped.
-/

set_option autoImplicit false

namespace StreamControl

/-- The state that a filter is left in at a start. -/
def StartResult.state : StartResult → FilterState
  | .started => .started
  | .vetoed => .idle
  | .failed _ => .failed

namespace FilterGraph

variable (graph : FilterGraph)

/-- A graph whose filters have been gone through at a start. -/
def settled (results : List (FilterSlot × StartResult)) : FilterGraph :=
  results.foldl (fun graph result => graph.setState result.1.index result.2.state) graph

/-- A graph some of whose filters have been stopped. -/
def halted (slots : List FilterSlot) : FilterGraph :=
  slots.foldl (fun graph slot => graph.setState slot.index .stopped) graph

/-- The names of the filters. -/
def names : List String := graph.nodes.map (·.name)

@[simp] theorem names_setState (index : Nat) (state : FilterState) :
    (graph.setState index state).names = graph.names := by
  refine List.ext_getElem? fun position => ?_
  rw [names, names, setState, List.getElem?_map, List.getElem?_map, List.getElem?_modify]
  cases graph.nodes[position]? with
  | none => rfl
  | some node =>
    by_cases here : index = position <;> simp [here]

@[simp] theorem names_settled (results : List (FilterSlot × StartResult)) :
    (graph.settled results).names = graph.names := by
  induction results generalizing graph with
  | nil => rfl
  | cons result rest ih => exact (ih _).trans (graph.names_setState _ _)

@[simp] theorem names_halted (slots : List FilterSlot) :
    (graph.halted slots).names = graph.names := by
  induction slots generalizing graph with
  | nil => rfl
  | cons slot rest ih => exact (ih _).trans (graph.names_setState _ _)

@[simp] theorem flow_settled (results : List (FilterSlot × StartResult)) :
    (graph.settled results).flow = graph.flow := by
  induction results generalizing graph with
  | nil => rfl
  | cons result rest ih => exact ih _

@[simp] theorem flow_halted (slots : List FilterSlot) :
    (graph.halted slots).flow = graph.flow := by
  induction slots generalizing graph with
  | nil => rfl
  | cons slot rest ih => exact ih _

/-- A node in its place. -/
def slotOf (index : Nat) (node : FilterNode) : FilterSlot :=
  { index, name := node.name, code := node.code, state := node.state,
    inputs := graph.inputs index, outputs := graph.outputs index }

theorem slots_eq : graph.slots = graph.nodes.mapIdx graph.slotOf := by
  have taken : ∀ count, (List.range count).filterMap graph.slot? =
      (graph.nodes.take count).mapIdx graph.slotOf := by
    intro count
    induction count with
    | zero => rfl
    | succ count ih =>
      rw [List.range_succ, List.filterMap_append, ih, List.take_add_one, List.mapIdx_append]
      cases found : graph.nodes[count]? with
      | none => simp [slot?, found]
      | some node =>
        have short : (graph.nodes.take count).length = count :=
          List.length_take_of_le (Nat.le_of_lt (List.getElem?_eq_some_iff.mp found).1)
        simp [slot?, found, slotOf, short]
  rw [slots, taken, List.take_length]

theorem index_slots : graph.slots.map (·.index) = List.range' 0 graph.slots.length := by
  rw [slots_eq]
  refine List.ext_getElem? fun position => ?_
  by_cases present : position < graph.nodes.length
  · simp [present, slotOf]
  · simp [present]

theorem getElem?_nodes_settled (results : List (FilterSlot × StartResult)) (first : Nat)
    (indices : results.map (·.1.index) = List.range' first results.length) (position : Nat) :
    (graph.settled results).nodes[position]? = graph.nodes[position]?.map fun node =>
      if position < first then node
      else { node with state := (results[position - first]?.map (·.2.state)).getD node.state } := by
  induction results generalizing graph first with
  | nil => simp [settled]
  | cons result rest ih =>
    simp only [List.map_cons, List.length_cons, List.range'_succ, List.cons.injEq] at indices
    obtain ⟨here, later⟩ := indices
    rw [show graph.settled (result :: rest) =
      (graph.setState result.1.index result.2.state).settled rest from rfl,
      ih _ (first + 1) later, setState, List.getElem?_modify, Option.map_eq_map, Option.map_map,
      here]
    refine congrArg (fun change => graph.nodes[position]?.map change) (funext fun node => ?_)
    rw [Function.comp_apply]
    rcases Nat.lt_trichotomy position first with before | rfl | after
    · rw [if_pos (Nat.lt_succ_of_lt before), if_pos before, if_neg (Nat.ne_of_gt before)]
    · rw [if_pos (Nat.lt_succ_self _), if_neg (Nat.lt_irrefl _), Nat.sub_self]
      rw [if_pos rfl]
      rfl
    · obtain ⟨distance, rfl⟩ := Nat.exists_eq_add_of_lt after
      have further : ¬ first + distance + 1 < first + 1 := by omega
      have away : first ≠ first + distance + 1 := by omega
      have beyond : ¬ first + distance + 1 < first := by omega
      rw [if_neg further, if_neg away, if_neg beyond]
      rw [show first + distance + 1 - (first + 1) = distance by omega,
        show first + distance + 1 - first = distance + 1 by omega]
      rfl

theorem links_settled (results : List (FilterSlot × StartResult)) :
    (graph.settled results).links = graph.links := by
  induction results generalizing graph with
  | nil => rfl
  | cons result rest ih => exact ih _

/-- A start that has gone through all filters leaves them in the states that
came of it. -/
theorem slots_settled {results : List (FilterSlot × StartResult)}
    (all : results.map (·.1) = graph.slots) :
    (graph.settled results).slots = results.map fun result =>
      { result.1 with state := result.2.state } := by
  have indices : results.map (·.1.index) = List.range' 0 results.length := by
    have known := graph.index_slots
    rw [← all, List.map_map, List.length_map] at known
    exact known
  refine List.ext_getElem? fun position => ?_
  have slot := congrArg (fun slots => slots[position]?) all
  rw [slots_eq, List.getElem?_mapIdx, List.getElem?_map] at slot
  rw [slots_eq, List.getElem?_mapIdx, graph.getElem?_nodes_settled results 0 indices,
    Option.map_map, List.getElem?_map]
  cases found : results[position]? with
  | none =>
    rw [found, Option.map_none] at slot
    rw [Option.map_eq_none_iff.mp slot.symm]
    rfl
  | some result =>
    rw [found, Option.map_some] at slot
    obtain ⟨node, present, same⟩ := Option.map_eq_some_iff.mp slot.symm
    rw [present]
    simp [← same, slotOf, inputs, outputs, links_settled]

end FilterGraph

namespace Outline

variable (outline : Outline) (stream : StreamId)

/-! ## Outlines of starts and stops -/

/-- A filter has been gone through at a start. -/
def settle : FilterSlot × StartResult → Outline
  | (slot, .started) =>
    (outline.change stream (·.setState slot.index .started)).mark stream slot.name true
  | (slot, .vetoed) => outline.change stream (·.setState slot.index .idle)
  | (slot, .failed _) => outline.change stream (·.setState slot.index .failed)

/-- A filter has been stopped. -/
def halt (slot : FilterSlot) : Outline :=
  (outline.change stream (·.setState slot.index .stopped)).mark stream slot.name false

/-- A start has come as far as these filters. -/
def starting (results : List (FilterSlot × StartResult)) : Outline :=
  results.foldl (fun outline => outline.settle stream)
    (outline.step outline.serials (some stream) .preStarted)

/-- A start is over. -/
def started (results : List (FilterSlot × StartResult)) : Outline :=
  ((outline.starting stream results).change stream (·.setFlow .running)).step outline.serials
    (some stream) .started

/-- A stop has come as far as these filters. -/
def stopping (serials : List Nat) (slots : List FilterSlot) : Outline :=
  slots.foldl (fun outline => outline.halt stream)
    (outline.step serials (some stream) .preStopped)

/-- A stop is over. -/
def stopped (serials : List Nat) (slots : List FilterSlot) : Outline :=
  ((outline.stopping stream serials slots).change stream (·.setFlow .idle)).step serials
    (some stream) .stopped

/-! ## Controllers, marks and graphs in them -/

theorem isSome_mark {filter other : String} {started : Bool} {owner : StreamId}
    (known : (outline.mark? owner other).isSome = true) :
    ((outline.mark stream filter started).mark? owner other).isSome = true := by
  simp only [mark]
  split
  · rfl
  · exact known

theorem isSome_settle {result : FilterSlot × StartResult} {owner : StreamId} {other : String}
    (known : (outline.mark? owner other).isSome = true) :
    ((outline.settle stream result).mark? owner other).isSome = true := by
  obtain ⟨slot, result⟩ := result
  cases result with
  | started => exact isSome_mark _ stream known
  | vetoed => exact known
  | failed fault => exact known

theorem controllers_settle (result : FilterSlot × StartResult) :
    (outline.settle stream result).controllers = outline.controllers := by
  obtain ⟨slot, result⟩ := result
  cases result <;> rfl

theorem find?_settle (result : FilterSlot × StartResult) (other : StreamId) :
    (outline.settle stream result).streams.find? other =
      (outline.streams.find? other).map fun graph =>
        if other = stream then graph.setState result.1.index result.2.state else graph := by
  have changed : (outline.settle stream result).streams =
      outline.streams.modify stream (·.setState result.1.index result.2.state) := by
    obtain ⟨slot, result⟩ := result
    cases result <;> rfl
  rw [changed, OrderedMap.find?_modify]
  by_cases here : other = stream <;> simp [here]

theorem controllers_starting (results : List (FilterSlot × StartResult)) :
    (outline.starting stream results).controllers =
      (outline.step outline.serials (some stream) .preStarted).controllers := by
  rw [starting]
  generalize outline.step outline.serials (some stream) .preStarted = first
  induction results generalizing first with
  | nil => rfl
  | cons result rest ih => rw [List.foldl_cons, ih, controllers_settle]

/-- The filters of the stream are in the states that the results give them. -/
theorem find?_starting (results : List (FilterSlot × StartResult)) (other : StreamId) :
    (outline.starting stream results).streams.find? other =
      (outline.streams.find? other).map fun graph =>
        if other = stream then graph.settled results else graph := by
  have fold : ∀ first : Outline,
      (results.foldl (fun outline => outline.settle stream) first).streams.find? other =
        (first.streams.find? other).map fun graph =>
          if other = stream then graph.settled results else graph := by
    induction results with
    | nil =>
      intro first
      rw [List.foldl_nil]
      by_cases here : other = stream <;> simp [here, FilterGraph.settled]
    | cons result rest ih =>
      intro first
      rw [List.foldl_cons, ih, find?_settle, Option.map_map]
      by_cases here : other = stream <;> simp [here, FilterGraph.settled, Function.comp_def]
  exact fold _

theorem controllers_stopping (serials : List Nat) (slots : List FilterSlot) :
    (outline.stopping stream serials slots).controllers =
      (outline.step serials (some stream) .preStopped).controllers := by
  rw [stopping]
  generalize outline.step serials (some stream) .preStopped = first
  induction slots generalizing first with
  | nil => rfl
  | cons slot rest ih => exact ih _

theorem find?_stopping (serials : List Nat) (slots : List FilterSlot) (other : StreamId) :
    (outline.stopping stream serials slots).streams.find? other =
      (outline.streams.find? other).map fun graph =>
        if other = stream then graph.halted slots else graph := by
  have fold : ∀ first : Outline,
      (slots.foldl (fun outline => outline.halt stream) first).streams.find? other =
        (first.streams.find? other).map fun graph =>
          if other = stream then graph.halted slots else graph := by
    induction slots with
    | nil =>
      intro first
      rw [List.foldl_nil]
      by_cases here : other = stream <;> simp [here, FilterGraph.halted]
    | cons slot rest ih =>
      intro first
      have changed : (first.halt stream slot).streams.find? other =
          (first.streams.find? other).map fun graph =>
            if other = stream then graph.setState slot.index .stopped else graph := by
        rw [halt, mark, change, OrderedMap.find?_modify]
        by_cases here : other = stream <;> simp [here]
      rw [List.foldl_cons, ih, changed, Option.map_map]
      by_cases here : other = stream <;> simp [here, FilterGraph.halted, Function.comp_def]
  exact fold _

theorem controllers_started (results : List (FilterSlot × StartResult)) :
    (outline.started stream results).controllers =
      (outline.step outline.serials (some stream) .started).controllers := by
  have same := outline.controllers_starting stream results
  rw [← outline.step_again outline.serials (some stream) .preStarted .started]
  exact congrArg (List.map _) same

theorem find?_started (results : List (FilterSlot × StartResult)) (other : StreamId) :
    (outline.started stream results).streams.find? other =
      (outline.streams.find? other).map fun graph =>
        if other = stream then (graph.settled results).setFlow .running else graph := by
  rw [started, step, change, OrderedMap.find?_modify, find?_starting, Option.map_map]
  by_cases here : other = stream <;> simp [here, Function.comp_def]

/-- A stop leaves the controllers that took part stopped with the stream. -/
theorem controllers_stopped (serials : List Nat) (slots : List FilterSlot) :
    (outline.stopped stream serials slots).controllers =
      (outline.step serials (some stream) .stopped).controllers := by
  have same := outline.controllers_stopping stream serials slots
  rw [← outline.step_again serials (some stream) .preStopped .stopped]
  exact congrArg (List.map _) same

theorem find?_stopped (serials : List Nat) (slots : List FilterSlot) (other : StreamId) :
    (outline.stopped stream serials slots).streams.find? other =
      (outline.streams.find? other).map fun graph =>
        if other = stream then (graph.halted slots).setFlow .idle else graph := by
  rw [stopped, step, change, OrderedMap.find?_modify, find?_stopping, Option.map_map]
  by_cases here : other = stream <;> simp [here, Function.comp_def]

end Outline

namespace Host

open StreamControl.Action Session

variable {σ : Type}

/-! ## Marking -/

theorem meets_modifyStream {host : Host σ} (stream : StreamId)
    (change : FilterGraph → FilterGraph) :
    (modifyStream stream change).Meets host
      (fun _ => Turns [] (host.outline.change stream change) host) (fun _ _ => False)
      (fun _ _ => False) :=
  ⟨.refl _, .refl _, rfl, rfl, rfl, rfl, rfl⟩

/-- A filter that is known can be marked in the tree. -/
theorem meets_setStarted {host : Host σ} (stream : StreamId) (filter : String) (started : Bool)
    (known : (host.outline.mark? stream filter).isSome = true) :
    (onSession (Session.changeTree fun tree => ((), ·) <$> tree.setStarted stream filter started)).Meets
      host (fun _ => Turns [] (host.outline.mark stream filter started) host) (fun _ _ => False)
      (fun _ _ => False) := by
  obtain ⟨tree, marked⟩ := ParameterTree.setStarted_isOk started known
  rw [onSession, meets_within, meets_changeTree_unit, marked]
  refine ⟨.plant _ tree, ParameterTree.sameFilters_setStarted marked, ?_, rfl, rfl, rfl, rfl⟩
  refine congrArg (fun mark? => Outline.mk host.controllers host.streams mark?) ?_
  exact funext fun other => funext fun name => ParameterTree.mark?_setStarted marked other name

theorem meets_markFilter {host : Host σ} (stream : StreamId) (slot : FilterSlot)
    (state : FilterState) (started : Bool)
    (known : (host.outline.mark? stream slot.name).isSome = true) :
    (markFilter stream slot state started).Meets host
      (fun _ => Turns [] ((host.outline.change stream (·.setState slot.index state)).mark stream
        slot.name started) host) (fun _ _ => False) (fun _ _ => False) := by
  rw [markFilter, meets_bind]
  refine (meets_modifyStream stream _).imp fun _ changed turns => ?_
  have still : (changed.outline.mark? stream slot.name).isSome = true := by rwa [turns.shape]
  refine (meets_setStarted stream slot.name started still).imp fun _ marked further => ?_
  rw [turns.shape] at further
  exact turns.trans further

/-! ## Starting filters -/

/-- The call that is made for a filter at a start, unless it is held back. -/
def startVisits (stream : StreamId) : FilterSlot × StartResult → List Visit
  | (slot, .started) => [.filter .start stream slot.name .succeeded]
  | (_, .vetoed) => []
  | (slot, .failed _) => [.filter .start stream slot.name .failed]

theorem meets_startFilter (code : UserCode σ) {host : Host σ} (stream : StreamId) (held : List Nat)
    (slot : FilterSlot) (known : (host.outline.mark? stream slot.name).isSome = true) :
    (startFilter code stream held slot).Meets host
      (fun result => Turns (startVisits stream (slot, result))
        (host.outline.settle stream (slot, result)) host)
      (fun _ _ => False)
      (fun _ => Turns [.filter .start stream slot.name .panicked] host.outline host) := by
  rw [startFilter]
  split
  · rw [meets_bind]
    exact (meets_modifyStream stream _).always fun _ _ turns => turns
  · rw [meets_bind, onSession, meets_within]
    refine (meets_callFilter code .start stream slot host.session).mono ?_ (fun _ _ h => h)
      (fun _ _ => turns_of_passed)
    intro result session passed
    have called := turns_of_passed passed
    cases result with
    | ok value =>
      dsimp only
      rw [meets_bind]
      have still : (({ host with session } : Host σ).outline.mark? stream slot.name).isSome = true := by
        rwa [called.shape]
      refine (meets_markFilter stream slot .started true still).always fun _ marked turns => ?_
      rw [called.shape] at turns
      have both := called.trans turns
      exact both.next (visits_onSession (Calls.log _ _)) fun _ _ turns =>
        turns.next (visits_onSession (Calls.emit _)) fun _ _ turns => turns
    | error fault =>
      dsimp only
      rw [meets_bind]
      refine (meets_modifyStream stream _).always fun _ marked turns => ?_
      rw [called.shape] at turns
      have both := called.trans turns
      exact both.next (visits_onSession (Calls.log _ _)) fun _ _ turns =>
        turns.next (visits_onSession (Calls.emit _)) fun _ _ turns => turns

/-- Filters are started in order, as far as none panics. -/
theorem meets_startFilters (code : UserCode σ) (stream : StreamId) (held : List Nat)
    (slots : List FilterSlot) :
    ∀ {host : Host σ},
      (∀ slot ∈ slots, (host.outline.mark? stream slot.name).isSome = true) →
      (startFilters code stream held slots).Meets host
        (fun results after => results.map (·.1) = slots ∧
          Turns (results.flatMap (startVisits stream))
            (results.foldl (fun outline => outline.settle stream) host.outline) host after)
        (fun _ _ => False)
        (fun _ after => ∃ (results : List (FilterSlot × StartResult)) (slot : FilterSlot)
          (rest : List FilterSlot), slots = results.map (·.1) ++ slot :: rest ∧
          Turns (results.flatMap (startVisits stream) ++
              [.filter .start stream slot.name .panicked])
            (results.foldl (fun outline => outline.settle stream) host.outline) host after) := by
  induction slots with
  | nil =>
    intro host _
    exact ⟨rfl, Turns.refl host⟩
  | cons slot rest ih =>
    intro host known
    rw [startFilters, meets_bind]
    refine (meets_startFilter code stream held slot (known slot List.mem_cons_self)).mono ?_
      (fun _ _ h => h) ?_
    · intro result between turns
      have still : ∀ other ∈ rest, (between.outline.mark? stream other.name).isSome = true := by
        intro other member
        rw [turns.shape]
        exact host.outline.isSome_settle stream (known other (List.mem_cons_of_mem _ member))
      rw [meets_bind]
      refine (ih still).mono ?_ (fun _ _ h => h) ?_
      · rintro results after ⟨visited, further⟩
        rw [turns.shape] at further
        exact ⟨congrArg (slot :: ·) visited, turns.trans further⟩
      · rintro _ after ⟨results, broken, unvisited, visited, further⟩
        rw [turns.shape] at further
        refine ⟨(slot, result) :: results, broken, unvisited, congrArg (slot :: ·) visited, ?_⟩
        rw [List.flatMap_cons, List.append_assoc]
        exact turns.trans further
    · intro _ after turns
      exact ⟨[], slot, rest, rfl, turns⟩

/-! ## The whole start -/

/-- The calls of a start that goes to its end. -/
def startCalls (stream : StreamId) (graph : FilterGraph) (controllers : List LoadedController)
    (results : List (FilterSlot × StartResult)) : List Visit :=
  hookRound .preStart stream graph.slots controllers ++ results.flatMap (startVisits stream) ++
    hookRound .postStart stream (startedSlots results) controllers

/-- The calls of a start that breaks off at a filter. -/
def brokenStartCalls (stream : StreamId) (graph : FilterGraph)
    (controllers : List LoadedController) (results : List (FilterSlot × StartResult))
    (slot : FilterSlot) : List Visit :=
  hookRound .preStart stream graph.slots controllers ++
    (results.flatMap (startVisits stream) ++ [.filter .start stream slot.name .panicked])

/-- Every controller can begin a cycle with a stream. -/
def ReadyFor (host : Host σ) (stream : StreamId) : Prop :=
  ∀ controller ∈ host.controllers,
    (controller.standing (some stream)).canBecome .preStarted = true

/-- A start that was not refused, up to its end. -/
structure Starts (stream : StreamId) (graph : FilterGraph) (report : StartReport)
    (results : List (FilterSlot × StartResult)) (before after : Host σ) : Prop where
  /-- Every controller could begin a cycle. -/
  ready : before.ReadyFor stream
  /-- Every filter was gone through, in order. -/
  slots : results.map (·.1) = graph.slots
  /-- What is reported. -/
  report : ∃ answered hookFailures, report = startReport results answered hookFailures
  /-- What happened. -/
  turns : Turns (startCalls stream graph before.controllers results)
    (before.outline.started stream results) before after

/-- A start that was not refused, up to where a filter panicked. -/
structure BreaksStart (stream : StreamId) (graph : FilterGraph) (before after : Host σ) : Prop where
  /-- Every controller could begin a cycle. -/
  ready : before.ReadyFor stream
  /-- What happened, up to some filter. -/
  turns : ∃ (results : List (FilterSlot × StartResult)) (slot : FilterSlot)
    (rest : List FilterSlot), graph.slots = results.map (·.1) ++ slot :: rest ∧
    Turns (brokenStartCalls stream graph before.controllers results slot)
      (before.outline.starting stream results) before after

/-- The tree knows the filters of a stream. -/
def KnowsSlots (host : Host σ) (stream : StreamId) (slots : List FilterSlot) : Prop :=
  ∀ slot ∈ slots, (host.outline.mark? stream slot.name).isSome = true

/-- A start up to where the filters that can are started; gives the number of hooks
that failed and what came of each filter. -/
def openStart (code : UserCode σ) (stream : StreamId) (graph : FilterGraph) (host : Host σ) :
    Action (Host σ) (Nat × List (FilterSlot × StartResult)) := do
  onSession (Session.openSpan (host.config.spans.streamSpan? stream "start"))
  let (held, vetoFailures) ← poll code stream graph.slots [] host.controllers
  let results ← startFilters code stream held graph.slots
  modifyStream stream (·.setFlow .running)
  return (vetoFailures, results)

/-- The rest of a start, once the queries that waited are answered; gives the number
of hooks that failed. -/
def closeStart (code : UserCode σ) (stream : StreamId) (controllers : List LoadedController)
    (results : List (FilterSlot × StartResult)) : Action (Host σ) Nat := do
  let failures ← callFilterHooks code .postStart .started stream (startedSlots results) controllers
  onSession (Session.log .info "stream started")
  onSession (Session.emit (.streamStarted stream))
  return failures

/-- In between, the queries that waited are answered. -/
theorem startIdle_eq (code : UserCode σ) (stream : StreamId) (graph : FilterGraph) :
    startIdle code stream graph = (do
      let host ← get
      let (vetoFailures, results) ← openStart code stream graph host
      let answered ← onSession (Session.drain code.callees)
      let failures ← closeStart code stream host.controllers results
      return startReport results answered (vetoFailures + failures)) := by
  simp only [startIdle, openStart, closeStart, bind_assoc, pure_bind]

theorem meets_openStart (code : UserCode σ) {host : Host σ} {stream : StreamId}
    {graph : FilterGraph} (nodup : host.outline.serials.Nodup) (ready : host.ReadyFor stream)
    (known : host.KnowsSlots stream graph.slots) :
    (openStart code stream graph host).Meets host
      (fun opened after => opened.2.map (·.1) = graph.slots ∧
        Turns (hookRound .preStart stream graph.slots host.controllers ++
            opened.2.flatMap (startVisits stream))
          ((host.outline.starting stream opened.2).change stream (·.setFlow .running)) host after)
      (fun _ _ => False) (fun _ => BreaksStart stream graph host) := by
  rw [openStart]
  refine (Turns.refl host).next (visits_onSession (Calls.openSpan _)) fun _ opened turns => ?_
  have loaded : opened.controllers = host.controllers := congrArg Outline.controllers turns.shape
  rw [meets_bind]
  refine (meets_poll code stream graph.slots host.controllers []
    ?_ nodup ?_ ?_).always fun polled asked further => ?_
  · rwa [turns.shape]
  · intro controller member
    rw [turns.shape]
    exact host.outline.mem_serials member
  · intro controller member _
    exact ready controller (loaded ▸ member)
  rw [turns.shape] at further
  have polls := turns.trans further
  have still : ∀ slot ∈ graph.slots, (asked.outline.mark? stream slot.name).isSome = true := by
    rw [polls.shape]
    exact known
  rw [meets_bind]
  refine (meets_startFilters code stream _ graph.slots still).mono ?_ (fun _ _ h => h) ?_
  · rintro results started ⟨visited, further⟩
    rw [polls.shape] at further
    have starting := polls.trans further
    rw [meets_bind]
    refine (meets_modifyStream stream _).always fun _ running further => ?_
    rw [starting.shape] at further
    have flowing := starting.trans further
    rw [List.append_nil] at flowing
    exact ⟨visited, flowing⟩
  · rintro _ after ⟨results, slot, rest, visited, further⟩
    rw [polls.shape] at further
    exact ⟨ready, results, slot, rest, visited, polls.trans further⟩

/-- Every controller that was asked is told, and takes the step that follows. -/
theorem meets_closeStart (code : UserCode σ) {host between : Host σ} {stream : StreamId}
    (nodup : host.outline.serials.Nodup) (results : List (FilterSlot × StartResult))
    (controllers : between.outline.controllers =
      (host.outline.step host.outline.serials (some stream) .preStarted).controllers) :
    (closeStart code stream host.controllers results).Meets between
      (fun _ after => Turns (hookRound .postStart stream (startedSlots results) host.controllers)
        (between.outline.step host.outline.serials (some stream) .started) between after)
      (fun _ _ => False) (fun _ _ => False) := by
  have serials : between.outline.serials = host.outline.serials := by
    rw [Outline.serials, controllers]
    exact host.outline.serials_step _ _ _
  rw [closeStart, meets_bind]
  refine (meets_callFilterHooks code .postStart .started stream (startedSlots results)
    host.controllers ?_ nodup ?_ ?_).always fun failures told turns => ?_
  · rwa [serials]
  · intro controller member
    rw [serials]
    exact host.outline.mem_serials member
  · intro controller member _
    have member : controller ∈ between.outline.controllers := member
    rw [controllers, Outline.mem_step] at member
    obtain ⟨old, present, rfl⟩ := member
    rw [if_pos (host.outline.mem_serials present), LoadedController.standing_moved]
    rfl
  · exact turns.next (visits_onSession (Calls.log _ _)) fun _ _ turns =>
      turns.next (visits_onSession (Calls.emit _)) fun _ _ turns => turns

theorem meets_startIdle (code : UserCode σ) {host : Host σ} {stream : StreamId}
    {graph : FilterGraph} (nodup : host.outline.serials.Nodup) (ready : host.ReadyFor stream)
    (known : host.KnowsSlots stream graph.slots) :
    (startIdle code stream graph).Meets host
      (fun report after => ∃ results, Starts stream graph report results host after)
      (fun _ _ => False) (fun _ => BreaksStart stream graph host) := by
  rw [startIdle_eq, meets_bind, meets_get, meets_bind]
  refine (meets_openStart code nodup ready known).imp fun opened between both => ?_
  obtain ⟨vetoFailures, results⟩ := opened
  obtain ⟨visited, turns⟩ := both
  refine turns.next (visits_onSession (Calls.drain code)) fun answered drained turns => ?_
  have controllers : drained.outline.controllers =
      (host.outline.step host.outline.serials (some stream) .preStarted).controllers := by
    rw [turns.shape]
    exact host.outline.controllers_starting stream results
  rw [meets_bind]
  refine (meets_closeStart code nodup results controllers).always fun failures after further => ?_
  rw [turns.shape] at further
  exact ⟨results, ready, visited, ⟨_, _, rfl⟩, turns.trans further⟩

/-- A start is refused at once, before anybody is asked, if the controller that
was loaded first cannot begin a cycle. -/
theorem meets_startIdle_of_blocked (code : UserCode σ) {host : Host σ} {stream : StreamId}
    {graph : FilterGraph} (nodup : host.outline.serials.Nodup) {controller : LoadedController}
    (first : host.controllers.head? = some controller)
    (blocked : (controller.standing (some stream)).canBecome .preStarted = false) :
    (startIdle code stream graph).Meets host (fun _ _ => False)
      (fun _ => Turns [] host.outline host) (fun _ _ => False) := by
  rw [startIdle, meets_bind, meets_get]
  refine (Turns.refl host).next (visits_onSession (Calls.openSpan _)) fun _ opened turns => ?_
  obtain ⟨rest, controllers⟩ := List.head?_eq_some_iff.mp first
  have loaded : opened.controllers = host.controllers := congrArg Outline.controllers turns.shape
  rw [controllers, meets_bind]
  refine (meets_poll_of_blocked code stream graph.slots [] ?_ rest ?_ blocked).mono
    (fun _ _ h => h.elim) ?_ (fun _ _ h => h)
  · rwa [turns.shape]
  · rw [loaded, controllers]
    exact List.mem_cons_self
  · rintro _ _ rfl
    exact turns

/-! ## Stopping filters -/

/-- The call that is made for a filter at a stop. -/
def stopVisit (stream : StreamId) (result : FilterSlot × Except Fault Unit) : Visit :=
  .filter .stop stream result.1.name (exitOf result.2)

/-- A filter is stopped, whatever its function answers. -/
theorem meets_stopFilter (code : UserCode σ) {host : Host σ} (stream : StreamId)
    (slot : FilterSlot) (known : (host.outline.mark? stream slot.name).isSome = true) :
    (stopFilter code stream slot).Meets host
      (fun _ after => ∃ result, Turns [stopVisit stream (slot, result)]
        (host.outline.halt stream slot) host after)
      (fun _ _ => False)
      (fun _ => Turns [.filter .stop stream slot.name .panicked] host.outline host) := by
  rw [stopFilter, meets_bind, onSession, meets_within]
  refine (meets_callFilter code .stop stream slot host.session).mono ?_ (fun _ _ h => h)
    (fun _ _ => turns_of_passed)
  intro result session passed
  have called := turns_of_passed passed
  -- What follows is the same whether or not the function refused.
  have finish : ∀ (refusal : Option Fault) (between : Host σ),
      Turns [stopVisit stream (slot, result)] host.outline host between →
        (do
          markFilter stream slot .stopped false
          onSession (Session.emit (.filterStopped stream slot.name))
          pure refusal : Action (Host σ) (Option Fault)).Meets between
          (fun _ after => ∃ result, Turns [stopVisit stream (slot, result)]
            (host.outline.halt stream slot) host after)
          (fun _ _ => False)
          (fun _ => Turns [.filter .stop stream slot.name .panicked] host.outline host) := by
    intro refusal between turns
    have still : (between.outline.mark? stream slot.name).isSome = true := by rwa [turns.shape]
    rw [meets_bind]
    refine (meets_markFilter stream slot .stopped false still).always fun _ marked further => ?_
    rw [turns.shape] at further
    have both := turns.trans further
    exact both.next (visits_onSession (Calls.emit _)) fun _ _ turns => ⟨result, turns⟩
  cases result with
  | ok value => exact finish none _ called
  | error fault =>
    exact called.next (visits_onSession (Calls.log _ _)) fun _ between turns =>
      finish (some fault) between turns

/-- Filters are stopped in order, as far as none panics. -/
theorem meets_stopFilters (code : UserCode σ) (stream : StreamId) (slots : List FilterSlot) :
    ∀ {host : Host σ}, host.KnowsSlots stream slots →
      (stopFilters code stream slots).Meets host
        (fun _ after => ∃ results : List (FilterSlot × Except Fault Unit),
          results.map (·.1) = slots ∧
          Turns (results.map (stopVisit stream))
            (slots.foldl (fun outline => outline.halt stream) host.outline) host after)
        (fun _ _ => False)
        (fun _ after => ∃ (results : List (FilterSlot × Except Fault Unit)) (slot : FilterSlot)
          (rest : List FilterSlot), slots = results.map (·.1) ++ slot :: rest ∧
          Turns (results.map (stopVisit stream) ++ [.filter .stop stream slot.name .panicked])
            ((results.map (·.1)).foldl (fun outline => outline.halt stream) host.outline) host
            after) := by
  induction slots with
  | nil =>
    intro host _
    exact ⟨[], rfl, Turns.refl host⟩
  | cons slot rest ih =>
    intro host known
    rw [stopFilters, meets_bind]
    refine (meets_stopFilter code stream slot (known slot List.mem_cons_self)).mono ?_
      (fun _ _ h => h) ?_
    · rintro refusal between ⟨result, turns⟩
      have still : between.KnowsSlots stream rest := by
        intro other member
        rw [turns.shape]
        exact Outline.isSome_mark _ stream (known other (List.mem_cons_of_mem _ member))
      rw [meets_bind]
      refine (ih still).mono ?_ (fun _ _ h => h) ?_
      · rintro others after ⟨results, visited, further⟩
        rw [turns.shape] at further
        exact ⟨(slot, result) :: results, congrArg (slot :: ·) visited, turns.trans further⟩
      · rintro _ after ⟨results, broken, unvisited, visited, further⟩
        rw [turns.shape] at further
        exact ⟨(slot, result) :: results, broken, unvisited, congrArg (slot :: ·) visited,
          turns.trans further⟩
    · intro _ after turns
      exact ⟨[], slot, rest, rfl, turns⟩

/-! ## The whole stop -/

/-- The filters of a graph that are started. -/
def runningSlots (graph : FilterGraph) : List FilterSlot :=
  graph.slots.filter (·.state = .started)

/-- The filters that a start has started are started afterwards. -/
theorem names_runningSlots_settled {graph : FilterGraph} {results : List (FilterSlot × StartResult)}
    (all : results.map (·.1) = graph.slots) :
    (runningSlots ((graph.settled results).setFlow .running)).map (·.name) =
      (startedSlots results).map (·.name) := by
  have slots : ((graph.settled results).setFlow .running).slots = (graph.settled results).slots :=
    rfl
  rw [runningSlots, slots, graph.slots_settled all, startedSlots, List.filter_map, List.map_map,
    List.map_map]
  have same : ∀ result : FilterSlot × StartResult,
      decide (result.2.state = .started) = decide (result.2 = .started) := by
    rintro ⟨slot, result⟩
    cases result <;> rfl
  refine congrArg (List.map _) (List.filter_congr fun result _ => same result)

/-- The calls of a stop that goes to its end. -/
def stopCalls (stream : StreamId) (slots : List FilterSlot) (controllers : List LoadedController)
    (results : List (FilterSlot × Except Fault Unit)) : List Visit :=
  hookRound .preStop stream slots controllers ++ results.map (stopVisit stream) ++
    hookRound .postStop stream slots controllers

/-- The calls of a stop that breaks off at a filter. -/
def brokenStopCalls (stream : StreamId) (slots : List FilterSlot)
    (controllers : List LoadedController) (results : List (FilterSlot × Except Fault Unit))
    (slot : FilterSlot) : List Visit :=
  hookRound .preStop stream slots controllers ++
    (results.map (stopVisit stream) ++ [.filter .stop stream slot.name .panicked])

/-- A stop that was not refused, up to its end. -/
structure Stops (stream : StreamId) (graph : FilterGraph) (before after : Host σ) : Prop where
  /-- What happened. -/
  turns : ∃ results : List (FilterSlot × Except Fault Unit),
    results.map (·.1) = runningSlots graph ∧
    Turns (stopCalls stream (runningSlots graph) (before.witnesses stream) results)
      (before.outline.stopped stream ((before.witnesses stream).map (·.serial))
        (runningSlots graph)) before after

/-- A stop that was not refused, up to where a filter panicked. -/
structure BreaksStop (stream : StreamId) (graph : FilterGraph) (before after : Host σ) : Prop where
  /-- What happened, up to some filter. -/
  turns : ∃ (results : List (FilterSlot × Except Fault Unit)) (slot : FilterSlot)
    (rest : List FilterSlot), runningSlots graph = results.map (·.1) ++ slot :: rest ∧
    Turns (brokenStopCalls stream (runningSlots graph) (before.witnesses stream) results slot)
      (before.outline.stopping stream ((before.witnesses stream).map (·.serial))
        (results.map (·.1))) before after

/-- The controllers that have seen a stream start are among those that are
loaded. -/
theorem mem_witnesses {host : Host σ} {stream : StreamId} {controller : LoadedController} :
    controller ∈ host.witnesses stream ↔
      controller ∈ host.controllers ∧ controller.streamPhases.find? stream = some .started := by
  simp only [witnesses, List.mem_filter, List.mem_reverse, decide_eq_true_eq]

theorem nodup_witnesses {host : Host σ} (nodup : host.outline.serials.Nodup) (stream : StreamId) :
    ((host.witnesses stream).map (·.serial)).Nodup := by
  have reversed : (host.controllers.reverse.map (·.serial)).Nodup := by
    rw [List.map_reverse]
    exact List.pairwise_reverse.mpr (nodup.imp Ne.symm)
  exact reversed.sublist (List.filter_sublist.map _)

/-- A controller whose serial number is that of a witness is one. -/
theorem find?_of_mem_witnesses {host : Host σ} (nodup : host.outline.serials.Nodup)
    (stream : StreamId) {controller : LoadedController} (member : controller ∈ host.controllers) :
    controller.serial ∈ (host.witnesses stream).map (·.serial) ↔
      controller.streamPhases.find? stream = some .started := by
  rw [List.mem_map]
  constructor
  · rintro ⟨witness, seen, same⟩
    obtain ⟨loaded, phase⟩ := mem_witnesses.mp seen
    have found := find?_serial nodup loaded
    rw [same, find?_serial nodup member, Option.some.injEq] at found
    rw [found, phase]
  · intro phase
    exact ⟨controller, mem_witnesses.mpr ⟨member, phase⟩, rfl⟩

theorem meets_stopRunning (code : UserCode σ) {host : Host σ} {stream : StreamId}
    {graph : FilterGraph} (nodup : host.outline.serials.Nodup)
    (known : host.KnowsSlots stream graph.slots) :
    (stopRunning code stream graph).Meets host (fun _ => Stops stream graph host)
      (fun _ _ => False) (fun _ => BreaksStop stream graph host) := by
  rw [stopRunning, meets_bind, meets_get]
  refine (Turns.refl host).next (visits_onSession (Calls.openSpan _)) fun _ opened turns => ?_
  have loaded : opened.controllers = host.controllers := congrArg Outline.controllers turns.shape
  have present : ∀ controller ∈ host.witnesses stream, controller.serial ∈ host.outline.serials :=
    fun controller member => host.outline.mem_serials (mem_witnesses.mp member).1
  have distinct := nodup_witnesses nodup stream
  rw [meets_bind]
  refine (meets_callFilterHooks code .preStop .preStopped stream _ (host.witnesses stream)
    ?_ distinct ?_ ?_).always fun before told further => ?_
  · rwa [turns.shape]
  · rwa [turns.shape]
  · intro controller member seen
    rw [loaded] at member
    rw [LoadedController.standing, (find?_of_mem_witnesses nodup stream member).mp seen]
    rfl
  rw [turns.shape] at further
  have first := turns.trans further
  have still : told.KnowsSlots stream (runningSlots graph) := by
    intro slot member
    rw [first.shape]
    exact known slot (List.mem_filter.mp member).1
  rw [meets_bind]
  refine (meets_stopFilters code stream (runningSlots graph) still).mono ?_ (fun _ _ h => h) ?_
  · rintro refusals halted ⟨results, visited, further⟩
    rw [first.shape] at further
    have second := first.trans further
    rw [meets_bind]
    refine (meets_modifyStream stream _).always fun _ idle further => ?_
    rw [second.shape] at further
    have third := second.trans further
    rw [List.append_nil] at third
    have shape : idle.outline.controllers = (host.outline.step
        ((host.witnesses stream).map (·.serial)) (some stream) .preStopped).controllers := by
      rw [third.shape]
      exact host.outline.controllers_stopping stream _ _
    have serials : idle.outline.serials = host.outline.serials := by
      rw [Outline.serials, shape]
      exact host.outline.serials_step _ _ _
    rw [meets_bind]
    refine (meets_callFilterHooks code .postStop .stopped stream _ (host.witnesses stream)
      ?_ distinct ?_ ?_).always fun after told further => ?_
    · rwa [serials]
    · rwa [serials]
    · intro controller member seen
      have member : controller ∈ idle.outline.controllers := member
      rw [shape, Outline.mem_step] at member
      obtain ⟨old, here, rfl⟩ := member
      by_cases witness : old.serial ∈ (host.witnesses stream).map (·.serial)
      · rw [if_pos witness, LoadedController.standing_moved]
        rfl
      · rw [if_neg witness] at seen
        exact absurd seen witness
    rw [third.shape] at further
    have fourth := third.trans further
    refine fourth.next (visits_onSession (Calls.changeTree fun tree =>
      tree.kept_dropUnkept stream)) fun removed _ turns => ?_
    exact turns.next (visits_onSession (Calls.drain code)) fun _ _ turns =>
      turns.next (visits_onSession (Calls.log _ _)) fun _ _ turns =>
        turns.next (visits_onSession (Calls.emit _)) fun _ _ turns => ⟨results, visited, turns⟩
  · rintro _ after ⟨results, slot, rest, visited, further⟩
    rw [first.shape] at further
    exact ⟨results, slot, rest, visited, first.trans further⟩

/-! ## Starts and stops as they are asked for -/

/-- The controller that was loaded first cannot begin a cycle with a stream. -/
def BlockedFor (host : Host σ) (stream : StreamId) : Prop :=
  ∃ controller, host.controllers.head? = some controller ∧
    (controller.standing (some stream)).canBecome .preStarted = false

/-- A start either is refused, and changes no more than the journal, or ends
one way or the other. -/
theorem meets_start (code : UserCode σ) {host : Host σ} (stream : StreamId)
    (nodup : host.outline.serials.Nodup)
    (known : ∀ graph, host.stream? stream = some graph → host.KnowsSlots stream graph.slots)
    (decided : ∀ graph, host.stream? stream = some graph → graph.flow = .idle →
      host.ReadyFor stream ∨ host.BlockedFor stream) :
    (start code stream).Meets host
      (fun report after => ∃ graph results, host.stream? stream = some graph ∧
        graph.flow = .idle ∧ Starts stream graph report results host after)
      (fun _ => Turns [] host.outline host)
      (fun _ after => ∃ graph, host.stream? stream = some graph ∧ graph.flow = .idle ∧
        BreaksStart stream graph host after) := by
  rw [start, meets_bind, attached, meets_bind, meets_get]
  cases found : host.stream? stream with
  | none => exact Turns.refl host
  | some graph =>
    dsimp only
    rw [meets_pure]
    cases flow : graph.flow with
    | running => exact Turns.refl host
    | idle =>
      rcases decided graph found flow with ready | ⟨controller, first, blocked⟩
      · exact (meets_startIdle code nodup ready (known graph found)).mono
          (fun report after ⟨results, starts⟩ => ⟨graph, results, rfl, flow, starts⟩)
          (fun _ _ h => h.elim) (fun _ after breaks => ⟨graph, rfl, flow, breaks⟩)
      · exact (meets_startIdle_of_blocked code nodup first blocked).mono (fun _ _ h => h.elim)
          (fun _ _ turns => turns) (fun _ _ h => h.elim)

/-- A stop either is refused, and changes nothing, or ends one way or the
other. -/
theorem meets_stop (code : UserCode σ) {host : Host σ} (stream : StreamId)
    (nodup : host.outline.serials.Nodup)
    (known : ∀ graph, host.stream? stream = some graph → host.KnowsSlots stream graph.slots) :
    (stop code stream).Meets host
      (fun _ after => ∃ graph, host.stream? stream = some graph ∧ graph.flow = .running ∧
        Stops stream graph host after)
      (fun _ after => after = host ∧ ¬ host.Runs stream)
      (fun _ after => ∃ graph, host.stream? stream = some graph ∧ graph.flow = .running ∧
        BreaksStop stream graph host after) := by
  rw [stop, meets_bind, attached, meets_bind, meets_get]
  cases found : host.stream? stream with
  | none =>
    refine ⟨rfl, ?_⟩
    rintro ⟨graph, attached, _⟩
    rw [found] at attached
    cases attached
  | some graph =>
    dsimp only
    rw [meets_pure]
    cases flow : graph.flow with
    | idle =>
      refine ⟨rfl, ?_⟩
      rintro ⟨other, attached, running⟩
      rw [found, Option.some.injEq] at attached
      rw [← attached, flow] at running
      cases running
    | running =>
      exact (meets_stopRunning code nodup (known graph found)).mono
        (fun _ after stops => ⟨graph, rfl, flow, stops⟩) (fun _ _ h => h.elim)
        (fun _ after breaks => ⟨graph, rfl, flow, breaks⟩)

/-! ## Controllers and streams afterwards -/

section Afterwards

variable {stream : StreamId} {graph : FilterGraph} {report : StartReport}
  {results : List (FilterSlot × StartResult)} {before after : Host σ}

theorem Starts.controllers (starts : Starts stream graph report results before after) :
    after.controllers =
      (before.outline.step before.outline.serials (some stream) .started).controllers :=
  (congrArg Outline.controllers starts.turns.shape).trans
    (before.outline.controllers_started stream results)

theorem Starts.stream? (starts : Starts stream graph report results before after)
    (other : StreamId) :
    after.stream? other = (before.stream? other).map fun graph =>
      if other = stream then (graph.settled results).setFlow .running else graph :=
  (congrArg (fun outline => outline.streams.find? other) starts.turns.shape).trans
    (before.outline.find?_started stream results other)

theorem BreaksStart.controllers (breaks : BreaksStart stream graph before after) :
    after.controllers =
      (before.outline.step before.outline.serials (some stream) .preStarted).controllers := by
  obtain ⟨results, slot, rest, _, turns⟩ := breaks.turns
  exact (congrArg Outline.controllers turns.shape).trans
    (before.outline.controllers_starting stream results)

theorem BreaksStart.stream? (breaks : BreaksStart stream graph before after) :
    ∃ results, ∀ other, after.stream? other = (before.stream? other).map fun graph =>
      if other = stream then graph.settled results else graph := by
  obtain ⟨results, slot, rest, _, turns⟩ := breaks.turns
  exact ⟨results, fun other =>
    (congrArg (fun outline => outline.streams.find? other) turns.shape).trans
      (before.outline.find?_starting stream results other)⟩

theorem Stops.controllers (stops : Stops stream graph before after) :
    after.controllers = (before.outline.step ((before.witnesses stream).map (·.serial))
      (some stream) .stopped).controllers := by
  obtain ⟨results, _, turns⟩ := stops.turns
  exact (congrArg Outline.controllers turns.shape).trans
    (before.outline.controllers_stopped stream _ _)

theorem Stops.stream? (stops : Stops stream graph before after) (other : StreamId) :
    after.stream? other = (before.stream? other).map fun old =>
      if other = stream then (old.halted (runningSlots graph)).setFlow .idle else old := by
  obtain ⟨results, _, turns⟩ := stops.turns
  exact (congrArg (fun outline => outline.streams.find? other) turns.shape).trans
    (before.outline.find?_stopped stream _ _ other)

theorem BreaksStop.controllers (breaks : BreaksStop stream graph before after) :
    after.controllers = (before.outline.step ((before.witnesses stream).map (·.serial))
      (some stream) .preStopped).controllers := by
  obtain ⟨results, slot, rest, _, turns⟩ := breaks.turns
  exact (congrArg Outline.controllers turns.shape).trans
    (before.outline.controllers_stopping stream _ _)

theorem BreaksStop.stream? (breaks : BreaksStop stream graph before after) :
    ∃ slots, ∀ other, after.stream? other = (before.stream? other).map fun old =>
      if other = stream then old.halted slots else old := by
  obtain ⟨results, slot, rest, _, turns⟩ := breaks.turns
  exact ⟨results.map (·.1), fun other =>
    (congrArg (fun outline => outline.streams.find? other) turns.shape).trans
      (before.outline.find?_stopping stream _ _ other)⟩

end Afterwards

/-! ## Which streams run -/

section Running

variable {host before after : Host σ}

theorem not_runs_of_idle {stream : StreamId} {graph : FilterGraph}
    (found : host.stream? stream = some graph) (idle : graph.flow = .idle) : ¬ host.Runs stream := by
  rintro ⟨other, attached, running⟩
  rw [found, Option.some.injEq] at attached
  rw [← attached, idle] at running
  cases running

theorem runs_of_streams (streams : after.streams = before.streams) : after.Runs = before.Runs := by
  funext stream
  rw [Runs, Runs, Host.stream?, Host.stream?, streams]

theorem runs_iff {stream : StreamId} {graph : FilterGraph}
    (found : host.stream? stream = some graph) : host.Runs stream ↔ graph.flow = .running := by
  constructor
  · rintro ⟨other, attached, running⟩
    rw [found, Option.some.injEq] at attached
    rwa [attached]
  · exact fun running => ⟨graph, found, running⟩

/-- Graphs that only differ inside their filters run alike. -/
theorem runs_congr {stream : StreamId} {change : FilterGraph → FilterGraph}
    (found : after.stream? stream = (before.stream? stream).map change)
    (flow : ∀ graph, (change graph).flow = graph.flow) : after.Runs stream ↔ before.Runs stream := by
  cases attached : before.stream? stream with
  | none =>
    rw [attached] at found
    simp only [Runs, found, attached, Option.map_none, reduceCtorEq, false_and, exists_false]
  | some graph =>
    rw [attached] at found
    rw [runs_iff attached, runs_iff found, flow]

theorem Starts.runs {stream : StreamId} {graph : FilterGraph} {report : StartReport}
    {results : List (FilterSlot × StartResult)}
    (starts : Starts stream graph report results before after)
    (found : before.stream? stream = some graph) (other : StreamId) :
    after.Runs other ↔ other = stream ∨ before.Runs other := by
  have attached := starts.stream? other
  by_cases here : other = stream
  · subst here
    rw [found, Option.map_some, if_pos rfl] at attached
    rw [runs_iff attached]
    exact ⟨fun _ => .inl rfl, fun _ => rfl⟩
  · rw [runs_congr attached fun graph => by rw [if_neg here]]
    exact ⟨.inr, fun either => either.resolve_left here⟩

theorem BreaksStart.runs {stream : StreamId} {graph : FilterGraph}
    (breaks : BreaksStart stream graph before after) (other : StreamId) :
    after.Runs other ↔ before.Runs other := by
  obtain ⟨results, attached⟩ := breaks.stream?
  refine runs_congr (attached other) fun graph => ?_
  split
  · exact graph.flow_settled results
  · rfl

theorem Stops.runs {stream : StreamId} {graph : FilterGraph}
    (stops : Stops stream graph before after) (other : StreamId) :
    after.Runs other ↔ before.Runs other ∧ other ≠ stream := by
  have attached := stops.stream? other
  by_cases here : other = stream
  · subst here
    cases found : before.stream? other with
    | none =>
      rw [found] at attached
      simp only [Runs, attached, Option.map_none, reduceCtorEq, false_and, exists_false, ne_eq,
        not_true_eq_false, and_false]
    | some old =>
      rw [found, Option.map_some, if_pos rfl] at attached
      rw [runs_iff attached]
      exact ⟨fun running => (nomatch running), fun both => absurd rfl both.2⟩
  · rw [runs_congr attached fun graph => by rw [if_neg here]]
    exact ⟨fun running => ⟨running, here⟩, fun both => both.1⟩

theorem BreaksStop.runs {stream : StreamId} {graph : FilterGraph}
    (breaks : BreaksStop stream graph before after) (other : StreamId) :
    after.Runs other ↔ before.Runs other := by
  obtain ⟨slots, attached⟩ := breaks.stream?
  refine runs_congr (attached other) fun graph => ?_
  split
  · exact graph.flow_halted slots
  · rfl

end Running

end Host

end StreamControl
