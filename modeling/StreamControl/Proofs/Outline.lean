import StreamControl.Host.Stop
import StreamControl.Proofs.Visits

/-!
# The outline of a host

What the controllers and the streams of a host are doing, and which filters
the tree marks as started, is the outline of the host.  `Host.Turns` relates a
host before and after something it does: what it called, and what its outline
is now.

The rules here are for the parts that starts, stops and unloads are made of:
a step of one controller (`Host.meets_advance`), a step of several, each with
calls of hooks (`Host.meets_poll`, `Host.meets_callFilterHooks`), and marking
a filter.  A step is refused exactly when the phase does not allow it, so each
rule says when a step is allowed.
-/

set_option autoImplicit false

namespace StreamControl

/-! ## Steps of controllers -/

namespace LoadedController

variable (controller : LoadedController) (stream? : Option StreamId) (stream other : StreamId)
  (target further : Phase)

/-- A controller after a step. -/
def moved : LoadedController :=
  { controller with
    phase := target
    streamPhases := match stream? with
      | some stream => controller.streamPhases.insert stream target
      | none => controller.streamPhases }

/-- A step is taken if the phase allows it, and refused otherwise. -/
theorem advance_eq :
    controller.advance stream? target =
      if (controller.standing stream?).canBecome target then
        .ok (controller.standing stream?, controller.moved stream? target)
      else .error (.invalidTransition (controller.standing stream?) target) := rfl

@[simp] theorem serial_moved : (controller.moved stream? target).serial = controller.serial := rfl

@[simp] theorem module_moved : (controller.moved stream? target).module = controller.module := rfl

@[simp] theorem find?_moved :
    (controller.moved (some stream) target).streamPhases.find? other =
      if other = stream then some target else controller.streamPhases.find? other :=
  OrderedMap.find?_insert _ _ _ _

theorem standing_moved : (controller.moved (some stream) target).standing (some stream) = target := by
  rw [standing, find?_moved, if_pos rfl, Option.getD_some]

/-- Only the last of several steps with a stream shows. -/
@[simp] theorem moved_moved :
    (controller.moved stream? target).moved stream? further = controller.moved stream? further := by
  cases stream? with
  | none => rfl
  | some stream =>
    have phases : (controller.streamPhases.insert stream target).insert stream further =
        controller.streamPhases.insert stream further := by
      refine OrderedMap.ext_find? fun other => ?_
      rw [OrderedMap.find?_insert, OrderedMap.find?_insert, OrderedMap.find?_insert]
      split <;> rfl
    simp only [moved, phases]

end LoadedController

/-! ## Outlines -/

/-- What is going on in a host. -/
structure Outline where
  /-- The loaded controllers, in load order. -/
  controllers : List LoadedController
  /-- The attached streams. -/
  streams : OrderedMap StreamId FilterGraph
  /-- Which filters the tree marks as started. -/
  mark? : StreamId → String → Option Bool

namespace Outline

variable (outline : Outline)

/-- The serial numbers of the controllers. -/
def serials : List Nat := outline.controllers.map (·.serial)

theorem mem_serials {controller : LoadedController} (member : controller ∈ outline.controllers) :
    controller.serial ∈ outline.serials := List.mem_map_of_mem member

/-- Some controllers take a step. -/
def step (serials : List Nat) (stream? : Option StreamId) (target : Phase) : Outline :=
  { outline with controllers := outline.controllers.map fun controller =>
      if controller.serial ∈ serials then controller.moved stream? target else controller }

/-- The graph of a stream changes. -/
def change (stream : StreamId) (change : FilterGraph → FilterGraph) : Outline :=
  { outline with streams := outline.streams.modify stream change }

/-- A filter is marked. -/
def mark (stream : StreamId) (filter : String) (started : Bool) : Outline :=
  { outline with mark? := fun other name =>
      if other = stream ∧ name = filter then some started else outline.mark? other name }

@[simp] theorem serials_step (serials : List Nat) (stream? : Option StreamId) (target : Phase) :
    (outline.step serials stream? target).serials = outline.serials := by
  rw [Outline.serials, step, List.map_map]
  refine List.map_congr_left fun controller _ => ?_
  rw [Function.comp_apply]
  split <;> rfl

theorem mem_step {serials : List Nat} {stream? : Option StreamId} {target : Phase}
    {controller : LoadedController} :
    controller ∈ (outline.step serials stream? target).controllers ↔
      ∃ old ∈ outline.controllers,
        (if old.serial ∈ serials then old.moved stream? target else old) = controller :=
  List.mem_map

/-- The same step, first of some controllers and then of others. -/
theorem step_step (first second : List Nat) (stream? : Option StreamId) (target : Phase) :
    (outline.step first stream? target).step second stream? target =
      outline.step (first ++ second) stream? target := by
  simp only [step, List.map_map]
  refine congrArg (fun controllers => { outline with controllers }) ?_
  refine List.map_congr_left fun controller _ => ?_
  simp only [Function.comp_apply, List.mem_append]
  by_cases one : controller.serial ∈ first <;> by_cases two : controller.serial ∈ second <;>
    simp [one, two]

/-- Of two steps of the same controllers with the same stream the second shows. -/
theorem step_again (serials : List Nat) (stream? : Option StreamId) (target further : Phase) :
    (outline.step serials stream? target).step serials stream? further =
      outline.step serials stream? further := by
  simp only [step, List.map_map]
  refine congrArg (fun controllers => { outline with controllers }) ?_
  refine List.map_congr_left fun controller _ => ?_
  by_cases member : controller.serial ∈ serials <;> simp [member]

@[simp] theorem step_nil (stream? : Option StreamId) (target : Phase) :
    outline.step [] stream? target = outline := by
  simp only [step, List.not_mem_nil, if_false, List.map_id']

end Outline

/-- The outline of a host. -/
def Host.outline {σ : Type} (host : Host σ) : Outline :=
  { controllers := host.controllers, streams := host.streams, mark? := host.session.tree.mark? }

namespace Host

open StreamControl.Action Session

variable {σ α β : Type}

/-! ## Before and after -/

/-- What a host called, and what its outline is now. -/
structure Turns (visits : List Visit) (outline : Outline) (before after : Host σ) : Prop where
  /-- What it called. -/
  wrote : Wrote visits before.session after.session
  /-- The tree knows the same filters. -/
  tree : before.session.tree.SameFilters after.session.tree
  /-- The outline now. -/
  shape : after.outline = outline
  /-- It is set up as it was. -/
  config : after.config = before.config
  /-- Streams are numbered on from where they were. -/
  nextStream : after.nextStream = before.nextStream
  /-- Controllers are numbered on from where they were. -/
  nextSerial : after.nextSerial = before.nextSerial
  /-- It is as far shut down as it was. -/
  isShutDown : after.isShutDown = before.isShutDown

theorem Turns.refl (host : Host σ) : Turns [] host.outline host host :=
  ⟨.refl _, .refl _, rfl, rfl, rfl, rfl, rfl⟩

theorem Turns.trans {first second third : Host σ} {visits more : List Visit}
    {outline outline' : Outline} (one : Turns visits outline first second)
    (two : Turns more outline' second third) : Turns (visits ++ more) outline' first third where
  wrote := one.wrote.trans two.wrote
  tree := one.tree.trans two.tree
  shape := two.shape
  config := two.config.trans one.config
  nextStream := two.nextStream.trans one.nextStream
  nextSerial := two.nextSerial.trans one.nextSerial
  isShutDown := two.isShutDown.trans one.isShutDown

/-- What goes on in the session shows in no outline. -/
theorem turns_of_passed {host : Host σ} {visits : List Visit} {session : Session σ}
    (passed : Passed visits host.session session) :
    Turns visits host.outline host { host with session } where
  wrote := passed.toWrote
  tree := passed.tree.sameFilters
  shape := congrArg (fun mark? => Outline.mk host.controllers host.streams mark?)
    (funext fun stream => funext fun filter => passed.tree.mark stream filter)
  config := rfl
  nextStream := rfl
  nextSerial := rfl
  isShutDown := rfl

/-- The tree has its shape if the outline is what it was. -/
theorem Turns.kept {before after : Host σ} {visits : List Visit}
    (turns : Turns visits before.outline before after) :
    before.session.tree.Kept after.session.tree where
  knows := turns.tree.knows
  mark stream filter := congrArg (fun outline => outline.mark? stream filter) turns.shape
  has := turns.tree.has

/-- An action that always returns, having made these calls and left the outline
as it was. -/
def Visits (visits : List Visit) (action : Action (Host σ) α) : Prop :=
  ∀ host, action.Meets host (fun _ => Turns visits host.outline host) (fun _ _ => False)
    (fun _ _ => False)

theorem visits_onSession {visits : List Visit}
    {action : Action (Session σ) α} (calls : Calls visits action) :
    Visits visits (onSession action) :=
  fun host => meets_within.mpr ((calls host.session).imp fun _ _ => turns_of_passed)

/-- Going on, after a turn, with an action that leaves the outline as it is. -/
theorem Turns.meets {before between : Host σ} {visits more : List Visit} {outline : Outline}
    (turns : Turns visits outline before between) {action : Action (Host σ) α}
    (further : Visits more action) :
    action.Meets between (fun _ => Turns (visits ++ more) outline before) (fun _ _ => False)
      (fun _ _ => False) := by
  refine (further between).imp fun _ after quiet => ?_
  rw [turns.shape] at quiet
  exact turns.trans quiet

/-- Going on, after a turn, with an action that makes no calls and leaves the
outline as it is, and then with another. -/
theorem Turns.next {before between : Host σ} {visits : List Visit} {outline : Outline}
    (turns : Turns visits outline before between) {first : Action (Host σ) α}
    (quiet : Visits [] first) {further : α → Action (Host σ) β} {returns : β → Host σ → Prop}
    {refuses : Fault → Host σ → Prop} {panics : String → Host σ → Prop}
    (rest : ∀ value after, Turns visits outline before after →
      (further value).Meets after returns refuses panics) :
    (first >>= further).Meets between returns refuses panics := by
  refine meets_bind.mpr ((turns.meets quiet).always fun value after turns => rest value after ?_)
  rwa [List.append_nil] at turns

/-! ## Steps -/

/-- Where no two elements have the same key, an element is the one that is found by
its key. -/
theorem find?_of_nodup {α β : Type} [DecidableEq β] (key : α → β) {elements : List α}
    (nodup : (elements.map key).Nodup) {element : α} (member : element ∈ elements) :
    elements.find? (fun other => key other = key element) = some element := by
  induction elements with
  | nil => cases member
  | cons first rest ih =>
    rw [List.map_cons, List.nodup_cons] at nodup
    rcases List.mem_cons.mp member with rfl | later
    · exact List.find?_cons_of_pos (decide_eq_true rfl)
    · have away : key first ≠ key element := fun same =>
        nodup.1 (same ▸ List.mem_map_of_mem later)
      rw [List.find?_cons_of_neg (by simpa using away)]
      exact ih nodup.2 later

/-- A serial number finds the controller that has it. -/
theorem find?_serial {host : Host σ} (nodup : host.outline.serials.Nodup)
    {controller : LoadedController} (member : controller ∈ host.controllers) :
    host.controllers.find? (·.serial = controller.serial) = some controller :=
  find?_of_nodup LoadedController.serial nodup member

/-- To put a controller back in its place after a step is to let the controller with its
serial number take the step. -/
theorem map_replace {host : Host σ} (nodup : host.outline.serials.Nodup)
    {controller : LoadedController} (member : controller ∈ host.controllers)
    (stream? : Option StreamId) (target : Phase) :
    host.controllers.map (fun other =>
        if other.serial = (controller.moved stream? target).serial then
          controller.moved stream? target else other) =
      (host.outline.step [controller.serial] stream? target).controllers := by
  refine List.map_congr_left fun other present => ?_
  by_cases same : other.serial = (controller.moved stream? target).serial
  · have again := find?_serial nodup present
    rw [same, LoadedController.serial_moved, find?_serial nodup member, Option.some.injEq] at again
    have here : other.serial ∈ [controller.serial] := List.mem_singleton.mpr same
    rw [if_pos same, if_pos here, again]
  · have away : other.serial ∉ [controller.serial] := fun here => same (List.mem_singleton.mp here)
    rw [if_neg same, if_neg away]

/-- A controller takes a step exactly when its phase allows it. -/
theorem meets_advance {host : Host σ} (nodup : host.outline.serials.Nodup)
    {controller : LoadedController} (member : controller ∈ host.controllers)
    (stream? : Option StreamId) (target : Phase) :
    (advance controller.serial stream? target).Meets host
      (fun _ after => (controller.standing stream?).canBecome target = true ∧
        Turns [] (host.outline.step [controller.serial] stream? target) host after)
      (fun fault after => (controller.standing stream?).canBecome target = false ∧
        fault = .invalidTransition (controller.standing stream?) target ∧ after = host)
      (fun _ _ => False) := by
  have found := find?_serial nodup member
  rw [advance, meets_bind, meets_get, found]
  dsimp only
  rw [LoadedController.advance_eq, meets_bind, meets_ofExcept]
  by_cases allowed : (controller.standing stream?).canBecome target = true
  · rw [if_pos allowed]
    dsimp only
    rw [replaceController, meets_bind, meets_modify]
    have announced : Visits [] (onSession (announceStep (controller.moved stream? target) stream?
        (controller.standing stream?) target) : Action (Host σ) Unit) :=
      visits_onSession (Calls.after (Calls.record rfl) fun _ => Calls.emit _)
    refine (announced _).always fun _ after turns => ⟨allowed, ?_⟩
    refine { turns with shape := turns.shape.trans ?_ }
    exact congrArg (fun controllers => { host.outline with controllers })
      (map_replace nodup member stream? target)
  · rw [if_neg allowed]
    exact ⟨Bool.not_eq_true _ ▸ allowed, rfl, rfl⟩

/-- Controllers that can take a step when some of them have taken it. -/
theorem ready_step {outline : Outline} {serial : Nat} {serials : List Nat} {stream? : Option StreamId}
    {target : Phase} (absent : serial ∉ serials)
    (ready : ∀ controller ∈ outline.controllers, controller.serial ∈ serial :: serials →
      (controller.standing stream?).canBecome target = true) :
    ∀ controller ∈ (outline.step [serial] stream? target).controllers,
      controller.serial ∈ serials → (controller.standing stream?).canBecome target = true := by
  intro controller member later
  obtain ⟨old, present, rfl⟩ := (outline.mem_step).mp member
  split at later
  · rename_i here
    rw [LoadedController.serial_moved, List.mem_singleton.mp here] at later
    exact absurd later absent
  · rename_i away
    rw [if_neg away]
    exact ready old present (List.mem_cons_of_mem _ later)

/-- The calls of a hook for some filters, controller by controller. -/
def hookRound (hook : Hook) (stream : StreamId) (slots : List FilterSlot)
    (controllers : List LoadedController) : List Visit :=
  controllers.flatMap fun controller =>
    filterCalls controller hook stream (slots.map (·.name))

theorem eq_hook_of_mem_hookRound {hook : Hook} {stream : StreamId} {slots : List FilterSlot}
    {controllers : List LoadedController} {visit : Visit}
    (member : visit ∈ hookRound hook stream slots controllers) :
    ∃ serial filter, visit = .hook serial hook (some (stream, filter)) := by
  obtain ⟨controller, _, called⟩ := List.mem_flatMap.mp member
  rw [filterCalls] at called
  split at called
  · obtain ⟨name, _, rfl⟩ := List.mem_map.mp called
    exact ⟨_, _, rfl⟩
  · cases called

/-- Controllers that can take a step have their hooks called and take it, in
order. -/
theorem meets_callFilterHooks (code : UserCode σ) (hook : Hook) (target : Phase)
    (stream : StreamId) (slots : List FilterSlot) (controllers : List LoadedController) :
    ∀ {host : Host σ}, host.outline.serials.Nodup → (controllers.map (·.serial)).Nodup →
      (∀ controller ∈ controllers, controller.serial ∈ host.outline.serials) →
      (∀ controller ∈ host.controllers, controller.serial ∈ controllers.map (·.serial) →
        (controller.standing (some stream)).canBecome target = true) →
      (callFilterHooks code hook target stream slots controllers).Meets host
        (fun _ => Turns (hookRound hook stream slots controllers)
          (host.outline.step (controllers.map (·.serial)) (some stream) target) host)
        (fun _ _ => False) (fun _ _ => False) := by
  induction controllers with
  | nil =>
    intro host _ _ _ _
    rw [List.map_nil, Outline.step_nil]
    exact Turns.refl host
  | cons controller rest ih =>
    intro host nodup distinct present ready
    rw [List.map_cons, List.nodup_cons] at distinct
    rw [callFilterHooks, meets_bind, meets_get, meets_bind]
    refine (visits_onSession (calls_callFilterHook? code _ controller hook stream slots) host).imp
      fun _ called turns => ?_
    obtain ⟨current, loaded, same⟩ := List.mem_map.mp (present controller List.mem_cons_self)
    have still : called.controllers = host.controllers :=
      congrArg Outline.controllers turns.shape
    have member : current ∈ called.controllers := still ▸ loaded
    have step := meets_advance (by rw [turns.shape]; exact nodup) member (some stream) target
    rw [same] at step
    rw [meets_bind]
    refine step.mono ?_ ?_ (fun _ _ h => h)
    · rintro _ moved ⟨_, advanced⟩
      rw [turns.shape] at advanced
      have both := turns.trans advanced
      rw [meets_bind]
      refine (ih ?_ distinct.2 ?_ ?_).imp fun _ final last => ?_
      · rw [both.shape, Outline.serials_step]
        exact nodup
      · intro other member
        rw [both.shape, Outline.serials_step]
        exact present other (List.mem_cons_of_mem _ member)
      · have shape : moved.controllers = _ := congrArg Outline.controllers both.shape
        rw [shape]
        exact ready_step distinct.1 ready
      · rw [both.shape, Outline.step_step] at last
        have all := both.trans last
        rw [List.append_nil] at all
        exact all
    · rintro _ _ ⟨blocked, _⟩
      have allowed := ready current loaded (List.mem_map.mpr ⟨controller, List.mem_cons_self, same.symm⟩)
      rw [allowed] at blocked
      cases blocked

/-- Controllers that can take a step take it and are asked about every filter,
in order. -/
theorem meets_poll (code : UserCode σ) (stream : StreamId) (slots : List FilterSlot)
    (controllers : List LoadedController) :
    ∀ {host : Host σ} (held : List Nat), host.outline.serials.Nodup →
      (controllers.map (·.serial)).Nodup →
      (∀ controller ∈ controllers, controller.serial ∈ host.outline.serials) →
      (∀ controller ∈ host.controllers, controller.serial ∈ controllers.map (·.serial) →
        (controller.standing (some stream)).canBecome .preStarted = true) →
      (poll code stream slots held controllers).Meets host
        (fun _ => Turns (hookRound .preStart stream slots controllers)
          (host.outline.step (controllers.map (·.serial)) (some stream) .preStarted) host)
        (fun _ _ => False) (fun _ _ => False) := by
  induction controllers with
  | nil =>
    intro host held _ _ _ _
    rw [List.map_nil, Outline.step_nil]
    exact Turns.refl host
  | cons controller rest ih =>
    intro host held nodup distinct present ready
    rw [List.map_cons, List.nodup_cons] at distinct
    obtain ⟨current, loaded, same⟩ := List.mem_map.mp (present controller List.mem_cons_self)
    have step := meets_advance nodup loaded (some stream) .preStarted
    rw [same] at step
    rw [poll, meets_bind]
    refine step.mono ?_ ?_ (fun _ _ h => h)
    · rintro _ moved ⟨_, advanced⟩
      rw [meets_bind, meets_get, meets_bind]
      refine (advanced.meets (visits_onSession
        (calls_askAboutAll code _ controller stream slots held))).imp fun _ asked both => ?_
      rw [meets_bind]
      refine (ih _ ?_ distinct.2 ?_ ?_).imp fun _ final last => ?_
      · rw [both.shape, Outline.serials_step]
        exact nodup
      · intro other member
        rw [both.shape, Outline.serials_step]
        exact present other (List.mem_cons_of_mem _ member)
      · have shape : asked.controllers = _ := congrArg Outline.controllers both.shape
        rw [shape]
        exact ready_step distinct.1 ready
      · rw [both.shape, Outline.step_step] at last
        exact both.trans last
    · rintro _ _ ⟨blocked, _⟩
      have allowed := ready current loaded (List.mem_map.mpr ⟨controller, List.mem_cons_self, same.symm⟩)
      rw [allowed] at blocked
      cases blocked

/-- If the first controller cannot take its step, nobody is asked. -/
theorem meets_poll_of_blocked (code : UserCode σ) (stream : StreamId) (slots : List FilterSlot)
    (held : List Nat) {host : Host σ} (nodup : host.outline.serials.Nodup)
    {controller : LoadedController} (rest : List LoadedController)
    (member : controller ∈ host.controllers)
    (blocked : (controller.standing (some stream)).canBecome .preStarted = false) :
    (poll code stream slots held (controller :: rest)).Meets host (fun _ _ => False)
      (fun _ => (· = host)) (fun _ _ => False) := by
  rw [poll, meets_bind]
  refine (meets_advance nodup member (some stream) .preStarted).mono ?_ ?_ (fun _ _ h => h)
  · rintro _ _ ⟨allowed, _⟩
    rw [blocked] at allowed
    cases allowed
  · rintro _ _ ⟨_, _, same⟩
    exact same

end Host

end StreamControl
