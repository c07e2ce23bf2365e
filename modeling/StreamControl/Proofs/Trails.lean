import StreamControl.Proofs.Views

/-!
# The trails of controllers

Every step of a controller is written down and announced right afterwards, so what a
journal says of the steps and what it says of the announcements are the same
(`Tracked.told`).  The steps of one controller are its construction, then its steps with
streams, and at most at the end its destruction (`Life`).  Those with one stream form a
`Trail`: each begins where the one before has led, the first at `constructed`, and each is
allowed.

While a controller is loaded it remembers how far it has come, with every stream and as a
whole, and what it remembers is where its trails have led (`Living`).  That is all the more
true when a start or a stop breaks off: a step is taken as a whole or not at all
(`Tracked.step`), and nothing else moves a controller.  So no course of a whole start or
stop is needed here, and the steps are right however the operations end (`lifecycles`).
-/

set_option autoImplicit false

namespace StreamControl

/-! ## Steps -/

/-- A step of a controller. -/
structure Transition where
  /-- The serial number of the controller. -/
  controller : Nat
  /-- The stream, if the step is one with a stream. -/
  stream : Option StreamId
  /-- The phase that is left. -/
  origin : Phase
  /-- The phase that is reached. -/
  target : Phase
  deriving DecidableEq

/-- How a step is announced, when its controller has this name. -/
def Transition.told (name : Nat → String) (step : Transition) : Event :=
  .lifecycleChanged (name step.controller) step.stream step.origin step.target

/-- The first step of a controller. -/
def construction (serial : Nat) : Transition := ⟨serial, none, .unconstructed, .constructed⟩

/-- The step that an entry shows. -/
def Entry.transition? : Entry → Option Transition
  | .advanced controller stream origin target => some ⟨controller, stream, origin, target⟩
  | _ => none

/-- The announcement of a step that an entry shows. -/
def Entry.change? : Entry → Option Event
  | .sent (.lifecycleChanged name stream origin target) =>
    some (.lifecycleChanged name stream origin target)
  | _ => none

theorem omitsInner_transition : OmitsInner Entry.transition? := fun entry inner => by
  cases entry <;> first | rfl | cases inner

theorem omitsInner_change : OmitsInner Entry.change? := fun entry inner => by
  cases entry with
  | sent event => cases event <;> first | rfl | cases inner
  | _ => rfl

/-- Calls of hooks and of filter functions are no steps. -/
theorem Entry.transition?_of_isOfCall {entry : Entry} (ofCall : entry.isOfCall = true) :
    entry.transition? = none := by
  cases entry <;> first | rfl | cases ofCall

theorem Entry.change?_of_isOfCall {entry : Entry} (ofCall : entry.isOfCall = true) :
    entry.change? = none := by
  cases entry <;> first | rfl | cases ofCall

theorem Entry.change?_of_isFailure {event : Event} (failure : event.isFailure = true) :
    (Entry.sent event).change? = none := by
  cases event <;> first | rfl | cases failure

theorem Entry.change?_of_isOfCycle {event : Event} (ofCycle : event.isOfCycle = true) :
    (Entry.sent event).change? = none := by
  cases event <;> first | rfl | cases ofCycle

/-! ## Trails and lives -/

/-- Steps that lead from one phase to another: each begins where the one before has led, and
is allowed. -/
inductive Trail (first : Phase) : List Transition → Phase → Prop where
  /-- No step. -/
  | start : Trail first [] first
  /-- One more step. -/
  | step {steps : List Transition} {step : Transition} (before : Trail first steps step.origin)
      (allowed : Phase.CanBecome step.origin step.target) :
      Trail first (steps ++ [step]) step.target

/-- Where the last of some steps has led. -/
def reached (steps : List Transition) : Option Phase := steps.getLast?.map (·.target)

theorem reached_append (steps : List Transition) (step : Transition) :
    reached (steps ++ [step]) = some step.target := by
  rw [reached, List.getLast?_concat, Option.map_some]

/-- All the steps of one controller, from its construction on. -/
structure Life (serial : Nat) (steps : List Transition) : Prop where
  /-- The steps with one stream. -/
  trails : ∀ stream, ∃ phase,
    Trail .constructed (steps.filter (·.stream = some stream)) phase
  /-- The steps without a stream: one at the beginning, and perhaps one at the end. -/
  course : ∃ rounds : List Transition, (∀ step ∈ rounds, step.stream.isSome = true) ∧
    (steps = construction serial :: rounds ∨
      ∃ origin : Phase, (origin = .constructed ∨ origin = .stopped) ∧
        reached (construction serial :: rounds) = some origin ∧
          steps = construction serial :: rounds ++ [⟨serial, none, origin, .destroyed⟩])

/-- The steps of a loaded controller, and what it remembers of them. -/
structure Living (controller : LoadedController) (steps : List Transition) : Prop where
  /-- With each stream it stands where its trail has led. -/
  trails : ∀ stream, Trail .constructed (steps.filter (·.stream = some stream))
    (controller.standing (some stream))
  /-- It has been constructed, and nothing else without a stream. -/
  course : ∃ rounds : List Transition, (∀ step ∈ rounds, step.stream.isSome = true) ∧
    steps = construction controller.serial :: rounds
  /-- As a whole it stands where its last step has led. -/
  reached : reached steps = some controller.phase
  /-- There is no way back. -/
  constructed : controller.phase ≠ .unconstructed

/-- A step with a stream adds to the trail with that stream. -/
theorem filter_stream_append (steps : List Transition) (step : Transition) (stream : StreamId) :
    (steps ++ [step]).filter (·.stream = some stream) =
      steps.filter (·.stream = some stream) ++
        if step.stream = some stream then [step] else [] := by
  simp only [List.filter_append, List.filter_cons, List.filter_nil, decide_eq_true_eq]

namespace Living

variable {controller : LoadedController} {steps : List Transition}

theorem life (living : Living controller steps) : Life controller.serial steps where
  trails stream := ⟨_, living.trails stream⟩
  course := by
    obtain ⟨rounds, streams, same⟩ := living.course
    exact ⟨rounds, streams, .inl same⟩

/-- A controller has just been constructed. -/
theorem new (unmoved : controller.streamPhases = .empty) :
    Living (controller.moved none .constructed) [construction controller.serial] where
  trails stream := by
    have standing : (controller.moved none .constructed).standing (some stream) = .constructed := by
      rw [LoadedController.standing, LoadedController.moved, unmoved, OrderedMap.find?_empty,
        Option.getD_none]
    rw [standing]
    exact .start
  course := ⟨[], nofun, rfl⟩
  reached := rfl
  constructed := nofun

/-- A loaded controller takes a step with a stream. -/
theorem step (living : Living controller steps) {stream : StreamId} {target : Phase}
    (allowed : Phase.CanBecome (controller.standing (some stream)) target) :
    Living (controller.moved (some stream) target)
      (steps ++ [⟨controller.serial, some stream, controller.standing (some stream), target⟩]) where
  trails other := by
    rw [filter_stream_append]
    by_cases here : some stream = some other
    · cases here
      rw [if_pos rfl, LoadedController.standing_moved]
      exact .step (living.trails stream) allowed
    · have away : other ≠ stream := fun same => here (congrArg some same.symm)
      rw [if_neg here, List.append_nil, LoadedController.standing, LoadedController.find?_moved,
        if_neg away]
      exact living.trails other
  course := by
    obtain ⟨rounds, streams, rfl⟩ := living.course
    refine ⟨rounds ++ [⟨controller.serial, some stream, _, target⟩], ?_, rfl⟩
    exact List.forall_mem_append.mpr ⟨streams, List.forall_mem_singleton.mpr rfl⟩
  reached := reached_append _ _
  constructed := by
    intro (back : target = .unconstructed)
    rw [back] at allowed
    generalize controller.standing (some stream) = phase at allowed
    cases allowed

/-- A loaded controller is destroyed. -/
theorem destroyed (living : Living controller steps)
    (allowed : Phase.CanBecome controller.phase .destroyed) :
    Life controller.serial (steps ++ [⟨controller.serial, none, controller.phase, .destroyed⟩]) where
  trails stream := by
    rw [filter_stream_append, if_neg nofun, List.append_nil]
    exact ⟨_, living.trails stream⟩
  course := by
    obtain ⟨rounds, streams, rfl⟩ := living.course
    refine ⟨rounds, streams, .inr ⟨controller.phase, ?_, living.reached, rfl⟩⟩
    have constructed := living.constructed
    generalize controller.phase = phase at allowed constructed
    cases allowed with
    | abandon => exact absurd rfl constructed
    | destroyUnused => exact .inl rfl
    | destroy => exact .inr rfl

end Living

namespace Host

open StreamControl.Action Session

variable {σ : Type} {code : UserCode σ} {host before after : Host σ}

/-! ## What a journal says of steps -/

/-- The steps of all controllers, in order. -/
def transitions (host : Host σ) : List Transition := host.session.journal.view Entry.transition?

/-- The announcements of steps, in order. -/
def changes (host : Host σ) : List Event := host.session.journal.view Entry.change?

/-- The steps of one controller, in order. -/
def transitionsOf (host : Host σ) (serial : Nat) : List Transition :=
  host.transitions.filter (·.controller = serial)

/-- A host in whose journal a step is noted and announced. -/
def announcing (step : Transition) (name : String) (channel : Broadcast Event) (host : Host σ) :
    Host σ :=
  { host with session := { host.session with
      channel
      journal := (host.session.journal.push
        (.advanced step.controller step.stream step.origin step.target)).push
          (.sent (.lifecycleChanged name step.stream step.origin step.target)) } }

section Announcing

variable (step : Transition) (name : String) (channel : Broadcast Event) (host : Host σ)

theorem transitions_announcing :
    (host.announcing step name channel).transitions = host.transitions ++ [step] :=
  (Journal.view_push_of_none _ _ rfl).trans (Journal.view_push_of_some _ _ rfl)

theorem changes_announcing :
    (host.announcing step name channel).changes =
      host.changes ++ [.lifecycleChanged name step.stream step.origin step.target] :=
  (Journal.view_push_of_some Entry.change? _ rfl).trans
    (congrArg (· ++ _) (Journal.view_push_of_none Entry.change? _ rfl))

theorem transitionsOf_announcing (serial : Nat) :
    (host.announcing step name channel).transitionsOf serial =
      host.transitionsOf serial ++ if step.controller = serial then [step] else [] := by
  rw [transitionsOf, transitions_announcing]
  simp only [List.filter_append, List.filter_cons, List.filter_nil, decide_eq_true_eq]
  rfl

variable {step name host}

/-- A step of a controller whose number has been used up. -/
theorem past_announcing {bound : Nat} (past : ∀ other ∈ host.transitions, other.controller < bound)
    (used : step.controller < bound) :
    ∀ other ∈ (host.announcing step name channel).transitions, other.controller < bound := by
  rw [transitions_announcing]
  exact List.forall_mem_append.mpr ⟨past, List.forall_mem_singleton.mpr used⟩

/-- A step that is announced under the name of its controller. -/
theorem told_announcing {names : Nat → String} (named : names step.controller = name)
    (told : host.changes = host.transitions.map (·.told names)) :
    (host.announcing step name channel).changes =
      (host.announcing step name channel).transitions.map (·.told names) := by
  rw [changes_announcing, transitions_announcing, List.map_append, told, List.map_singleton,
    Transition.told, named]

end Announcing

/-- What the journal of a host says of steps, and what its controllers remember of them. -/
structure Tracked (host : Host σ) : Prop where
  /-- No two controllers have the same serial number. -/
  nodup : (host.controllers.map (·.serial)).Nodup
  /-- Serial numbers have been used up. -/
  used : ∀ controller ∈ host.controllers, controller.serial < host.nextSerial
  /-- So have those of controllers that have taken a step. -/
  past : ∀ step ∈ host.transitions, step.controller < host.nextSerial
  /-- Steps are announced in order, under the names of their controllers. -/
  told : ∃ name : Nat → String,
    (∀ controller ∈ host.controllers, name controller.serial = controller.name) ∧
      host.changes = host.transitions.map (·.told name)
  /-- Loaded controllers remember where they stand. -/
  living : ∀ controller ∈ host.controllers,
    Living controller (host.transitionsOf controller.serial)
  /-- Others have not been loaded, or have been unloaded. -/
  others : ∀ serial ∉ host.controllers.map (·.serial),
    host.transitionsOf serial = [] ∨ Life serial (host.transitionsOf serial)

namespace Tracked

/-- Nothing has happened that concerns controllers. -/
theorem same (tracked : Tracked before) (controllers : after.controllers = before.controllers)
    (nextSerial : after.nextSerial = before.nextSerial)
    (transitions : after.transitions = before.transitions)
    (changes : after.changes = before.changes) : Tracked after := by
  have of (serial : Nat) : after.transitionsOf serial = before.transitionsOf serial :=
    congrArg (List.filter _) transitions
  constructor
  · exact controllers ▸ tracked.nodup
  · exact controllers ▸ nextSerial ▸ tracked.used
  · exact transitions ▸ nextSerial ▸ tracked.past
  · exact controllers ▸ transitions ▸ changes ▸ tracked.told
  · simp only [of, controllers]
    exact tracked.living
  · simp only [of, controllers]
    exact tracked.others

/-- An entry is written that is neither a step nor its announcement. -/
theorem writing (tracked : Tracked before) {entry : Entry} (noStep : entry.transition? = none)
    (noChange : entry.change? = none) (controllers : after.controllers = before.controllers)
    (nextSerial : after.nextSerial = before.nextSerial)
    (journal : after.session.journal = before.session.journal.push entry) : Tracked after := by
  refine tracked.same controllers nextSerial ?_ ?_
  · rw [transitions, journal, Journal.view_push_of_none _ _ noStep, transitions]
  · rw [changes, journal, Journal.view_push_of_none _ _ noChange, changes]

/-- An entry is written while user code runs. -/
theorem inner (tracked : Tracked before) {entry : Entry} (inner : entry.isInner = true)
    (controllers : after.controllers = before.controllers)
    (nextSerial : after.nextSerial = before.nextSerial)
    (journal : after.session.journal = before.session.journal.push entry) : Tracked after :=
  tracked.writing (omitsInner_transition entry inner) (omitsInner_change entry inner) controllers
    nextSerial journal

/-- A loaded controller takes a step with a stream. -/
theorem step (tracked : Tracked host) {controller : LoadedController}
    (loaded : controller ∈ host.controllers) {stream : StreamId} {target : Phase}
    (allowed : Phase.CanBecome (controller.standing (some stream)) target)
    (channel : Broadcast Event) :
    Tracked { host.announcing
        ⟨controller.serial, some stream, controller.standing (some stream), target⟩
        controller.name channel with
      controllers := host.controllers.map fun other =>
        if other.serial = controller.serial then controller.moved (some stream) target
        else other } := by
  have serials := serials_replaced host.controllers (controller.moved (some stream) target)
  rw [LoadedController.serial_moved] at serials
  have of := transitionsOf_announcing
    ⟨controller.serial, some stream, controller.standing (some stream), target⟩
    controller.name channel host
  constructor
  · exact serials.symm ▸ tracked.nodup
  · intro other member
    obtain ⟨old, present, rfl⟩ := List.mem_map.mp member
    split
    · exact tracked.used controller loaded
    · exact tracked.used old present
  · exact past_announcing channel tracked.past (tracked.used controller loaded)
  · obtain ⟨name, named, told⟩ := tracked.told
    refine ⟨name, fun other member => ?_, told_announcing channel (named controller loaded) told⟩
    obtain ⟨old, present, rfl⟩ := List.mem_map.mp member
    split
    · exact named controller loaded
    · exact named old present
  · intro other member
    obtain ⟨old, present, rfl⟩ := List.mem_map.mp member
    refine (of _).symm ▸ ?_
    by_cases here : old.serial = controller.serial
    · rw [if_pos here, LoadedController.serial_moved, if_pos rfl]
      exact (tracked.living controller loaded).step allowed
    · rw [if_neg here, if_neg (Ne.symm here), List.append_nil]
      exact tracked.living old present
  · intro serial absent
    have absent' : serial ∉ host.controllers.map (·.serial) := serials ▸ absent
    have away : controller.serial ≠ serial := fun here =>
      absent' (here ▸ List.mem_map_of_mem loaded)
    refine (of _).symm ▸ ?_
    rw [if_neg away, List.append_nil]
    exact tracked.others serial absent'

/-- A controller is constructed and loaded. -/
theorem join (tracked : Tracked host) (controller : LoadedController) (channel : Broadcast Event)
    (serial : controller.serial = host.nextSerial) (unmoved : controller.streamPhases = .empty) :
    Tracked { host.announcing (construction controller.serial) controller.name channel with
      controllers := host.controllers ++ [controller.moved none .constructed]
      nextSerial := host.nextSerial + 1 } := by
  have of := transitionsOf_announcing (construction controller.serial) controller.name channel host
  have away : ∀ other ∈ host.controllers, controller.serial ≠ other.serial := fun other member here =>
    absurd (tracked.used other member) (by omega)
  have unseen : host.transitionsOf controller.serial = [] := by
    refine List.filter_eq_nil_iff.mpr fun step member => ?_
    have earlier := tracked.past step member
    simp only [decide_eq_true_eq]
    omega
  constructor
  · rw [List.map_append, List.nodup_append]
    refine ⟨tracked.nodup, List.pairwise_singleton _ _, fun other member last new here => ?_⟩
    obtain ⟨old, present, rfl⟩ := List.mem_map.mp member
    rw [List.mem_singleton.mp new] at here
    exact away old present here.symm
  · refine List.forall_mem_append.mpr ⟨fun other member => ?_, List.forall_mem_singleton.mpr ?_⟩
    · exact Nat.lt_succ_of_lt (tracked.used other member)
    · exact serial ▸ Nat.lt_succ_self _
  · refine past_announcing channel (fun step member => ?_) ?_
    · exact Nat.lt_succ_of_lt (tracked.past step member)
    · exact serial ▸ Nat.lt_succ_self _
  · obtain ⟨name, named, told⟩ := tracked.told
    refine ⟨fun other => if other = controller.serial then controller.name else name other, ?_,
      told_announcing channel (if_pos rfl) (told.trans ?_)⟩
    · refine List.forall_mem_append.mpr ⟨fun other member => ?_, List.forall_mem_singleton.mpr ?_⟩
      · exact (if_neg (away other member).symm).trans (named other member)
      · exact if_pos rfl
    · refine List.map_congr_left fun step member => ?_
      have earlier := tracked.past step member
      rw [Transition.told, Transition.told, if_neg (by omega)]
  · refine List.forall_mem_append.mpr ⟨fun other member => ?_, List.forall_mem_singleton.mpr ?_⟩
    · refine (of _).symm ▸ ?_
      rw [construction, if_neg (away other member), List.append_nil]
      exact tracked.living other member
    · refine (of _).symm ▸ ?_
      rw [LoadedController.serial_moved, unseen, construction, if_pos rfl]
      exact .new unmoved
  · intro other absent
    rw [List.map_append, List.mem_append, not_or] at absent
    have elsewhere : controller.serial ≠ other := fun here =>
      absent.2 (here ▸ List.mem_singleton_self _)
    refine (of _).symm ▸ ?_
    rw [construction, if_neg elsewhere, List.append_nil]
    exact tracked.others other absent.1

/-- A loaded controller is destroyed and unloaded. -/
theorem leave (tracked : Tracked host) {controller : LoadedController}
    (loaded : controller ∈ host.controllers)
    (allowed : Phase.CanBecome controller.phase .destroyed) (channel : Broadcast Event) :
    Tracked { host.announcing ⟨controller.serial, none, controller.phase, .destroyed⟩
        controller.name channel with
      controllers := host.controllers.filter (·.serial ≠ controller.serial) } := by
  have of := transitionsOf_announcing ⟨controller.serial, none, controller.phase, .destroyed⟩
    controller.name channel host
  have stays {other : LoadedController} (member : other ∈ host.controllers.filter
      (·.serial ≠ controller.serial)) : other ∈ host.controllers ∧ controller.serial ≠ other.serial :=
    ⟨(List.mem_filter.mp member).1, by simpa using Ne.symm (by simpa using (List.mem_filter.mp member).2)⟩
  constructor
  · exact tracked.nodup.sublist (List.filter_sublist.map _)
  · exact fun other member => tracked.used other (stays member).1
  · exact past_announcing channel tracked.past (tracked.used controller loaded)
  · obtain ⟨name, named, told⟩ := tracked.told
    exact ⟨name, fun other member => named other (stays member).1,
      told_announcing channel (named controller loaded) told⟩
  · intro other member
    obtain ⟨present, away⟩ := stays member
    refine (of _).symm ▸ ?_
    rw [if_neg away, List.append_nil]
    exact tracked.living other present
  · intro serial absent
    refine (of _).symm ▸ ?_
    by_cases here : controller.serial = serial
    · subst here
      rw [if_pos rfl]
      exact .inr ((tracked.living controller loaded).destroyed allowed)
    · rw [if_neg here, List.append_nil]
      refine tracked.others serial fun member => absent ?_
      obtain ⟨old, present, rfl⟩ := List.mem_map.mp member
      exact List.mem_map_of_mem (List.mem_filter.mpr ⟨present, by simpa using Ne.symm here⟩)

end Tracked

/-! ## What operations do -/

/-- User code takes no step. -/
theorem lax_tracked (host : Host σ) : Lax fun session : Session σ =>
    Tracked { host with session } where
  record plain tracked := tracked.inner (Entry.isInner_of_isPlain plain) rfl rfl rfl
  memory _ tracked := tracked.same rfl rfl rfl rfl
  tally _ tracked := tracked.same rfl rfl rfl rfl
  channel _ tracked := tracked.same rfl rfl rfl rfl
  edit _ tracked := tracked.inner rfl rfl rfl rfl
  recordQuery ofQuery tracked := tracked.inner (Entry.isInner_of_isOfQuery ofQuery) rfl rfl rfl
  queue _ _ _ tracked := tracked.same rfl rfl rfl rfl

/-- Calls of hooks and of filter functions, and changes of the streams, are no steps. -/
theorem paced_tracked (code : UserCode σ) : Paced code (Tracked : Host σ → Prop) where
  modest host :=
    { remark := fun ofCall tracked => tracked.writing (Entry.transition?_of_isOfCall ofCall)
        (Entry.change?_of_isOfCall ofCall) rfl rfl rfl
      fail := fun _ _ _ _ _ failure => failing_of
        (P := fun session => Tracked { host with session })
        (fun _ _ tracked => tracked.same rfl rfl rfl rfl)
        (fun _ _ _ _ tracked => tracked.writing rfl rfl rfl rfl rfl)
        (fun _ _ _ tracked => tracked.writing rfl rfl rfl rfl rfl)
        (fun _ tracked => tracked.writing rfl (Entry.change?_of_isFailure failure) rfl rfl rfl)
      channel := fun _ tracked => tracked.same rfl rfl rfl rfl
      run := fun program _ => (lax_tracked host).keeps_run code program }
  streams _ tracked := tracked.same rfl rfl rfl rfl

/-- A step with a stream is taken as a whole or not at all. -/
theorem keeps_advance_tracked (serial : Nat) (stream : StreamId) (target : Phase) :
    Keeps (Tracked : Host σ → Prop) True False (advance serial (some stream) target) := by
  intro host tracked
  rw [advance, meets_bind, meets_get]
  split
  · exact tracked
  · rename_i controller found
    rw [LoadedController.advance_eq]
    split
    · rename_i allowed
      exact tracked.step (List.mem_of_find?_eq_some found) (Phase.canBecome_iff.mp allowed) _
    · exact ⟨trivial, tracked⟩

theorem stepping_tracked (code : UserCode σ) : Stepping code (Tracked : Host σ → Prop) where
  toPaced := paced_tracked code
  tell _ _ ofCycle tracked :=
    tracked.writing rfl (Entry.change?_of_isOfCycle ofCycle) rfl rfl rfl
  advance := keeps_advance_tracked

/-- Nothing else that a host does is a step. -/
theorem survives_tracked (code : UserCode σ) {deed : Deed} (apart : deed.isApart = true) :
    Survives code (Tracked : Host σ → Prop) deed := by
  intro before after does tracked
  cases does with
  | attach | enroll | mark | settle | forget => exact tracked.inner rfl rfl rfl rfl
  | announce _ stream => exact tracked.writing rfl rfl rfl rfl rfl
  | outside _ program ends =>
    exact ((lax_tracked before).keeps_run code program).of_ne_exhausted tracked ends
  | drain _ ends =>
    have drained : Keeps _ False False _ :=
      (lax_tracked before).keeps_drain ((lax_tracked before).keeps_callback code)
    exact drained.of_ne_exhausted tracked ends
  | shutDown | discard | close => exact tracked.same rfl rfl rfl rfl
  | _ => cases apart

theorem keeps_load_tracked (code : UserCode σ) (path : String) (requested : Option String)
    (module : ControllerModule) (arguments : List String) :
    Keeps (Tracked : Host σ → Prop) True False (load code path requested module arguments) := by
  refine (paced_tracked code).keeps_load (fun _ tracked => ?_)
    (fun _ controller channel serial _ unmoved tracked =>
      tracked.join controller channel serial unmoved)
    (fun _ _ tracked => tracked.writing rfl rfl rfl rfl rfl) path requested module arguments
  exact
    { tracked with
      used := fun controller loaded => Nat.lt_succ_of_lt (tracked.used controller loaded)
      past := fun step member => Nat.lt_succ_of_lt (tracked.past step member) }

theorem keeps_unload_tracked (code : UserCode σ) (name : String) :
    Keeps (Tracked : Host σ → Prop) True False (unload code name) :=
  (paced_tracked code).keeps_unload
    (fun channel loaded allowed tracked =>
      tracked.leave loaded (Phase.canBecome_iff.mp allowed) channel)
    (fun _ _ tracked => tracked.writing rfl rfl rfl rfl rfl) name

theorem keeps_stop_tracked (code : UserCode σ) (stream : StreamId) :
    Keeps (Tracked : Host σ → Prop) True True (stop code stream) :=
  keeps_stop_of (stepping_tracked code) (survives_tracked code rfl) (survives_tracked code rfl)
    (survives_tracked code rfl) (survives_tracked code rfl)

/-- Operations keep track of all controllers, however they end. -/
theorem tracked_perform (code : UserCode σ) (operation : Operation σ) (tracked : Tracked host)
    (ends : (operation.perform code host).1 ≠ .exhausted) :
    Tracked (operation.perform code host).2 :=
  ((paced_tracked code).survives_perform (fun _ _ _ apart => survives_tracked code apart)
    (fun _ _ => stepping_tracked code) (fun stream _ => keeps_stop_tracked code stream)
    (fun path requested module arguments _ => keeps_load_tracked code path requested module arguments)
    (fun name _ => keeps_unload_tracked code name) tracked).of_ne_exhausted ends

/-! ## Every history -/

namespace History

variable {history early : History σ}

theorem tracked (reachable : history.Reachable code) : Tracked history.host := by
  refine reachable.induction (motive := fun history => Tracked history.host) ?_ ?_
  · exact fun channel config memory =>
      ⟨List.nodup_nil, nofun, nofun, ⟨fun _ => "", nofun, rfl⟩, nofun, fun _ _ => .inl rfl⟩
  · exact fun history operation _ tracked _ ends => tracked_perform code operation tracked ends

/-- What a journal shows, it goes on to show. -/
theorem Leads.view {β : Type} (leads : Leads code early history) (view? : Entry → Option β) :
    early.host.session.journal.view view? <+: history.host.session.journal.view view? :=
  leads.written.filterMap view?

/-- Steps that have been announced have been announced under the names they had then. -/
theorem Leads.named {earlier names : Nat → String} (leads : Leads code early history)
    (before : early.host.changes = early.host.transitions.map (·.told earlier))
    (after : history.host.changes = history.host.transitions.map (·.told names))
    {step : Transition} (taken : step ∈ early.host.transitions) :
    names step.controller = earlier step.controller := by
  obtain ⟨further, steps⟩ := leads.view Entry.transition?
  obtain ⟨later, changes⟩ := leads.view Entry.change?
  have both : early.host.transitions.map (·.told earlier) ++ later =
      early.host.transitions.map (·.told names) ++ further.map (·.told names) := by
    rw [← before, ← List.map_append]
    exact changes.trans (after.trans (congrArg (List.map _) steps.symm))
  have same := List.append_inj_left both (by rw [List.length_map, List.length_map])
  exact ((Event.lifecycleChanged.injEq .. ▸ List.map_inj_left.mp same step taken).1).symm

end History

/-- **The steps of controllers are legal.**  Every step is announced, in order and under the
name of its controller, and nothing else is announced as a step.  The steps of every
controller are its construction, then steps with streams that form a trail with each
stream, and at most at the end its destruction; a controller that was not loaded has taken
no step.  This holds however the operations have ended. -/
theorem lifecycle_chains {history : History σ} (reachable : history.Reachable code) :
    ∃ name : Nat → String,
      history.host.changes = history.host.transitions.map (·.told name) ∧
      (∀ serial, history.host.transitionsOf serial = [] ∨
        Life serial (history.host.transitionsOf serial)) ∧
      ∀ early : History σ, early.Reachable code → History.Leads code early history →
        ∀ controller ∈ early.host.controllers, name controller.serial = controller.name ∧
          Life controller.serial (history.host.transitionsOf controller.serial) := by
  have tracked := History.tracked reachable
  obtain ⟨name, _, told⟩ := tracked.told
  have lives (serial : Nat) : history.host.transitionsOf serial = [] ∨
      Life serial (history.host.transitionsOf serial) := by
    by_cases loaded : serial ∈ history.host.controllers.map (·.serial)
    · obtain ⟨controller, member, rfl⟩ := List.mem_map.mp loaded
      exact .inr (tracked.living controller member).life
    · exact tracked.others serial loaded
  refine ⟨name, told, lives, fun early reachable leads controller loaded => ?_⟩
  obtain ⟨earlier, named, toldEarlier⟩ := (History.tracked reachable).told
  obtain ⟨rounds, _, course⟩ := ((History.tracked reachable).living controller loaded).course
  have constructed : construction controller.serial ∈ early.host.transitions :=
    (List.mem_filter.mp (course ▸ List.mem_cons_self)).1
  refine ⟨(leads.named toldEarlier told constructed).trans (named controller loaded),
    (lives controller.serial).resolve_left fun none => ?_⟩
  have still := (leads.view Entry.transition?).subset constructed
  exact List.filter_eq_nil_iff.mp none _ still (decide_eq_true rfl)

/-- User code in which the filters cannot be started: they panic. -/
def brittleCode : UserCode Unit :=
  { idleCode with
    filter := fun _ function _ => if function = .start then .panic "broken" else .done (.ok ()) }

/-- A history in which the start of one stream breaks off while another one runs. -/
def brittleHistory : History Unit :=
  .after brittleCode { episodes := [], host := freshHost }
    [.load "mixer" none { code := 0, hooks := [] } [],
      .addStream (FilterGraph.empty.append "source" none),
      .addStream (FilterGraph.empty.append "source" (some 0)), .start ⟨1⟩, .start ⟨2⟩,
      .load "limiter" none { code := 0, hooks := [] } [], .stop ⟨1⟩, .unload "mixer",
      .unload "limiter"]

theorem brittleHistory_reachable : brittleHistory.Reachable brittleCode := by
  refine ⟨_, _, _, create_freshHost, History.leads_after _ ⟨⟨⟨?_, nofun⟩, ?_⟩,
    ⟨⟨?_, ?attach⟩, ?_⟩, ⟨⟨?_, ?attach'⟩, ?_⟩, ⟨⟨?_, nofun⟩, ?_⟩, ⟨⟨?_, nofun⟩, ?_⟩,
    ⟨⟨?_, nofun⟩, ?_⟩, ⟨⟨?_, nofun⟩, ?_⟩, ⟨⟨?_, nofun⟩, ?_⟩, ⟨⟨?_, nofun⟩, ?_⟩, trivial⟩⟩
  case attach | attach' =>
    intro graph same
    cases same
    exact .add .new rfl
  all_goals decide +kernel

/-- One controller is stuck with the stream whose start has broken off and goes its way with
the other; the other controller comes and goes. -/
theorem lifecycle_chains_brittle :
    ¬ brittleHistory.host.Calm ∧
      brittleHistory.host.transitionsOf 0 = [construction 0,
        ⟨0, some ⟨1⟩, .constructed, .preStarted⟩, ⟨0, some ⟨1⟩, .preStarted, .started⟩,
        ⟨0, some ⟨2⟩, .constructed, .preStarted⟩, ⟨0, some ⟨1⟩, .started, .preStopped⟩,
        ⟨0, some ⟨1⟩, .preStopped, .stopped⟩] ∧
      Life 0 (brittleHistory.host.transitionsOf 0) ∧
      Life 1 (brittleHistory.host.transitionsOf 1) := by
  have alarmed : ¬ brittleHistory.host.Calm := by
    decide +kernel
  have stuck : brittleHistory.host.transitionsOf 0 = [construction 0,
      ⟨0, some ⟨1⟩, .constructed, .preStarted⟩, ⟨0, some ⟨1⟩, .preStarted, .started⟩,
      ⟨0, some ⟨2⟩, .constructed, .preStarted⟩, ⟨0, some ⟨1⟩, .started, .preStopped⟩,
      ⟨0, some ⟨1⟩, .preStopped, .stopped⟩] := by
    decide +kernel
  have gone : brittleHistory.host.transitionsOf 1 ≠ [] := by
    decide +kernel
  obtain ⟨name, _, lives, _⟩ := lifecycle_chains brittleHistory_reachable
  refine ⟨alarmed, stuck, (lives 0).resolve_left ?_, (lives 1).resolve_left gone⟩
  rw [stuck]
  nofun

end Host

end StreamControl
