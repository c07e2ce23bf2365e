import StreamControl.Proofs.Courses

/-!
# The hooks called on one controller

`Journal.hooksOn` is what a journal says of one controller and one filter: the
calls of `construct` and `destroy`, and those of the hooks that are called for
the filter.  A controller sees starts of a stream (`Sighting`), and each of them
makes a cycle of such calls (`Sighting.cycle`), of which the first part is
called by the start and the second part by the stop.

The calls of a start or of a stop go controller by controller and filter by
filter.  What they are for one controller and one filter is worked out here
(`Host.hooksOn_startCalls`, `Host.hooksOn_stopCalls`).
-/

set_option autoImplicit false

namespace StreamControl

/-! ## Restricting calls -/

/-- The hook that was called, if the call is one of a controller for a filter or
for its own sake; asking for help does not count. -/
def Visit.hookOn? (serial : Nat) (stream : StreamId) (filter : String) : Visit → Option Hook
  | .hook controller called none =>
    if controller = serial ∧ called ≠ .help then some called else none
  | .hook controller called (some target) =>
    if controller = serial ∧ target = (stream, filter) then some called else none
  | .filter .. => none

/-- The hooks of a controller that were called for a filter or for its own
sake. -/
def hooksAmong (serial : Nat) (stream : StreamId) (filter : String) (visits : List Visit) :
    List Hook := visits.filterMap (Visit.hookOn? serial stream filter)

/-- The hooks of a controller that a journal shows, in order. -/
def Journal.hooksOn (journal : Journal) (serial : Nat) (stream : StreamId) (filter : String) :
    List Hook := hooksAmong serial stream filter journal.visits

section Restricting

variable (serial : Nat) (stream : StreamId) (filter : String)

theorem hooksAmong_append (visits more : List Visit) :
    hooksAmong serial stream filter (visits ++ more) =
      hooksAmong serial stream filter visits ++ hooksAmong serial stream filter more :=
  List.filterMap_append

theorem hooksAmong_eq_nil {visits : List Visit}
    (beside : ∀ visit ∈ visits, visit.hookOn? serial stream filter = none) :
    hooksAmong serial stream filter visits = [] :=
  List.filterMap_eq_nil_iff.mpr beside

end Restricting

namespace Host

/-! ## Cycles -/

namespace Sighting

/-- The hooks that a start calls for a filter. -/
def opening (sighting : Sighting) (filter : String) : List Hook :=
  (if filter ∈ sighting.filters then [.preStart] else []) ++
    (if filter ∈ sighting.started then [.postStart] else [])

/-- The hooks that the stop calls for a filter. -/
def closing (sighting : Sighting) (filter : String) : List Hook :=
  if filter ∈ sighting.started then [.preStop, .postStop] else []

/-- The hooks that a start and its stop call for a filter. -/
def cycle (sighting : Sighting) (filter : String) : List Hook :=
  sighting.opening filter ++ sighting.closing filter

end Sighting

/-- The hooks of one cycle after the other, of which the last is not closed if
the stream still runs. -/
def cycles (filter : String) (isOpen : Bool) (seen : List Sighting) : List Hook :=
  seen.dropLast.flatMap (·.cycle filter) ++
    (seen.getLast?.toList.flatMap fun last => if isOpen then last.opening filter else last.cycle filter)

section Cycles

variable (filter : String)

theorem cycles_concat (isOpen : Bool) (seen : List Sighting) (last : Sighting) :
    cycles filter isOpen (seen ++ [last]) = seen.flatMap (·.cycle filter) ++
      if isOpen then last.opening filter else last.cycle filter := by
  simp [cycles]

theorem cycles_false (seen : List Sighting) :
    cycles filter false seen = seen.flatMap (·.cycle filter) := by
  rcases List.eq_nil_or_concat seen with rfl | ⟨earlier, last, rfl⟩
  · rfl
  · rw [List.concat_eq_append, cycles_concat, List.flatMap_append, if_neg Bool.false_ne_true]
    simp

/-- A start opens one more cycle. -/
theorem cycles_open (seen : List Sighting) (last : Sighting) :
    cycles filter true (seen ++ [last]) =
      cycles filter false seen ++ last.opening filter := by
  rw [cycles_concat, cycles_false, if_pos rfl]

/-- A stop closes the last cycle. -/
theorem cycles_close {seen : List Sighting} {last : Sighting} (latest : seen.getLast? = some last) :
    cycles filter false seen = cycles filter true seen ++ last.closing filter := by
  obtain ⟨earlier, rfl⟩ := List.getLast?_eq_some_iff.mp latest
  rw [cycles_concat, cycles_concat, if_pos rfl, if_neg Bool.false_ne_true, Sighting.cycle,
    List.append_assoc]

end Cycles

/-! ## Rounds of calls -/

section Rounds

variable (stream owner : StreamId) (filter : String) (hook : Hook)

theorem hooksAmong_plainCall (serial : Nat) (controller : LoadedController)
    (counts : hook ≠ .help) :
    hooksAmong serial stream filter (plainCall controller hook) =
      if controller.serial = serial then [hook].filter controller.module.fills else [] := by
  rw [plainCall]
  by_cases fills : controller.module.fills hook = true <;>
    by_cases same : controller.serial = serial <;>
      simp [fills, same, counts, hooksAmong, Visit.hookOn?]

/-- Of the calls of one controller for several filters one is for a filter. -/
theorem hooksAmong_filterCalls (serial : Nat) (controller : LoadedController)
    {names : List String} (distinct : names.Nodup) :
    hooksAmong serial stream filter (filterCalls controller hook owner names) =
      if controller.serial = serial ∧ owner = stream ∧ filter ∈ names then
        [hook].filter controller.module.fills else [] := by
  rw [filterCalls]
  by_cases fills : controller.module.fills hook = true
  · rw [if_pos fills, List.filter_cons_of_pos fills, List.filter_nil, hooksAmong,
      List.filterMap_map]
    by_cases here : controller.serial = serial ∧ owner = stream
    · obtain ⟨rfl, rfl⟩ := here
      induction names with
      | nil => simp
      | cons name rest ih =>
        rw [List.nodup_cons] at distinct
        rw [List.filterMap_cons, ih distinct.2]
        by_cases same : name = filter
        · subst same
          simp [Visit.hookOn?, distinct.1]
        · simp [Visit.hookOn?, same, Ne.symm same]
    · rw [if_neg fun all => here ⟨all.1, all.2.1⟩]
      refine List.filterMap_eq_nil_iff.mpr fun name _ => ?_
      simp only [Function.comp_apply, Visit.hookOn?, Prod.mk.injEq]
      exact if_neg fun all => here ⟨all.1, all.2.1⟩
  · simp [fills, hooksAmong]

/-- A round in which a controller takes no part. -/
theorem hooksAmong_hookRound_absent (serial : Nat) {slots : List FilterSlot}
    (distinct : (slots.map (·.name)).Nodup) {controllers : List LoadedController}
    (absent : serial ∉ controllers.map (·.serial)) :
    hooksAmong serial stream filter (hookRound hook owner slots controllers) = [] := by
  induction controllers with
  | nil => rfl
  | cons first rest ih =>
    rw [List.map_cons, List.mem_cons, not_or] at absent
    rw [hookRound, List.flatMap_cons, hooksAmong_append,
      hooksAmong_filterCalls stream owner filter hook serial first distinct,
      if_neg fun all => absent.1 all.1.symm, List.nil_append]
    exact ih absent.2

/-- A round in which a controller takes part. -/
theorem hooksAmong_hookRound {slots : List FilterSlot} (distinct : (slots.map (·.name)).Nodup)
    {controllers : List LoadedController} (nodup : (controllers.map (·.serial)).Nodup)
    {controller : LoadedController} (member : controller ∈ controllers) :
    hooksAmong controller.serial stream filter (hookRound hook owner slots controllers) =
      if owner = stream ∧ filter ∈ slots.map (·.name) then
        [hook].filter controller.module.fills else [] := by
  induction controllers with
  | nil => cases member
  | cons first rest ih =>
    rw [List.map_cons, List.nodup_cons] at nodup
    rw [hookRound, List.flatMap_cons, hooksAmong_append,
      hooksAmong_filterCalls stream owner filter hook controller.serial first distinct]
    rcases List.mem_cons.mp member with rfl | later
    · have others := hooksAmong_hookRound_absent stream owner filter hook controller.serial distinct
        nodup.1
      rw [hookRound] at others
      rw [others, List.append_nil]
      simp only [true_and]
    · have away : first.serial ≠ controller.serial := fun same =>
        nodup.1 (same ▸ List.mem_map_of_mem later)
      rw [if_neg fun all => away all.1, List.nil_append]
      exact ih nodup.2 later

/-- The functions of filters are no hooks. -/
theorem hooksAmong_startVisits (serial : Nat) (results : List (FilterSlot × StartResult)) :
    hooksAmong serial stream filter (results.flatMap (startVisits owner)) = [] := by
  refine hooksAmong_eq_nil serial stream filter fun visit member => ?_
  obtain ⟨⟨slot, result⟩, _, called⟩ := List.mem_flatMap.mp member
  cases result with
  | vetoed => cases called
  | started =>
    rw [List.mem_singleton.mp called]
    rfl
  | failed fault =>
    rw [List.mem_singleton.mp called]
    rfl

theorem hooksAmong_stopVisits (serial : Nat) (results : List (FilterSlot × Except Fault Unit)) :
    hooksAmong serial stream filter (results.map (stopVisit owner)) = [] := by
  refine hooksAmong_eq_nil serial stream filter fun visit member => ?_
  obtain ⟨⟨slot, result⟩, _, rfl⟩ := List.mem_map.mp member
  cases result <;> rfl

/-- The filters that were started are filters of the graph, in its order. -/
theorem sublist_startedSlots {graph : FilterGraph} {results : List (FilterSlot × StartResult)}
    (all : results.map (·.1) = graph.slots) :
    ((startedSlots results).map (·.name)).Sublist graph.names := by
  rw [FilterGraph.names, ← graph.map_name_slots, ← all, startedSlots]
  exact (List.filter_sublist.map _).map _

theorem sublist_runningSlots (graph : FilterGraph) :
    ((runningSlots graph).map (·.name)).Sublist graph.names := by
  rw [FilterGraph.names, ← graph.map_name_slots]
  exact List.filter_sublist.map _

section Calls

variable {graph : FilterGraph} {results : List (FilterSlot × StartResult)}
  {controllers : List LoadedController}

/-- What a start calls on a controller for a filter. -/
theorem hooksAmong_startCalls (distinct : graph.names.Nodup)
    (all : results.map (·.1) = graph.slots) (nodup : (controllers.map (·.serial)).Nodup)
    {controller : LoadedController} (member : controller ∈ controllers) :
    hooksAmong controller.serial stream filter (startCalls owner graph controllers results) =
      if owner = stream then
        (Sighting.opening ⟨graph.names, (startedSlots results).map (·.name)⟩ filter).filter
          controller.module.fills
      else [] := by
  have names : graph.slots.map (·.name) = graph.names := graph.map_name_slots
  rw [startCalls, hooksAmong_append, hooksAmong_append, hooksAmong_startVisits, List.append_nil,
    hooksAmong_hookRound stream owner filter .preStart (names ▸ distinct) nodup member,
    hooksAmong_hookRound stream owner filter .postStart
      (distinct.sublist (sublist_startedSlots all)) nodup member, names]
  by_cases here : owner = stream
  · simp only [here, true_and, if_true, Sighting.opening, List.filter_append]
    split <;> split <;> rfl
  · simp only [here, false_and, if_false, List.append_nil]

theorem hooksAmong_startCalls_absent (distinct : graph.names.Nodup)
    (all : results.map (·.1) = graph.slots) {serial : Nat}
    (absent : serial ∉ controllers.map (·.serial)) :
    hooksAmong serial stream filter (startCalls owner graph controllers results) = [] := by
  have names : graph.slots.map (·.name) = graph.names := graph.map_name_slots
  rw [startCalls, hooksAmong_append, hooksAmong_append, hooksAmong_startVisits,
    hooksAmong_hookRound_absent stream owner filter .preStart serial (names ▸ distinct) absent,
    hooksAmong_hookRound_absent stream owner filter .postStart serial
      (distinct.sublist (sublist_startedSlots all)) absent]
  rfl

/-- What a stop calls on a controller for a filter. -/
theorem hooksAmong_stopCalls {slots : List FilterSlot} (distinct : (slots.map (·.name)).Nodup)
    {stopped : List (FilterSlot × Except Fault Unit)}
    (nodup : (controllers.map (·.serial)).Nodup) {controller : LoadedController}
    (member : controller ∈ controllers) :
    hooksAmong controller.serial stream filter (stopCalls owner slots controllers stopped) =
      if owner = stream then
        (Sighting.closing ⟨[], slots.map (·.name)⟩ filter).filter controller.module.fills
      else [] := by
  rw [stopCalls, hooksAmong_append, hooksAmong_append, hooksAmong_stopVisits, List.append_nil,
    hooksAmong_hookRound stream owner filter .preStop distinct nodup member,
    hooksAmong_hookRound stream owner filter .postStop distinct nodup member]
  by_cases here : owner = stream
  · simp only [here, true_and, if_true, Sighting.closing]
    split
    · rw [← List.filter_append]
      rfl
    · rfl
  · simp only [here, false_and, if_false, List.append_nil]

theorem hooksAmong_stopCalls_absent {slots : List FilterSlot}
    (distinct : (slots.map (·.name)).Nodup) {stopped : List (FilterSlot × Except Fault Unit)}
    {serial : Nat} (absent : serial ∉ controllers.map (·.serial)) :
    hooksAmong serial stream filter (stopCalls owner slots controllers stopped) = [] := by
  rw [stopCalls, hooksAmong_append, hooksAmong_append, hooksAmong_stopVisits,
    hooksAmong_hookRound_absent stream owner filter .preStop serial distinct absent,
    hooksAmong_hookRound_absent stream owner filter .postStop serial distinct absent]
  rfl

end Calls

end Rounds

end Host

end StreamControl
