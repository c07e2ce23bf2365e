import StreamControl.Proofs.StartAndStop

/-!
# What the other operations come to

One rule each for attaching and detaching streams, for loading and unloading
controllers, and for what does neither: asking for help, running a program
from outside, and reading events.  As for starts and stops, a rule says which
calls were made and what the outline of the host is afterwards.

Attaching gives the filters of a stream to the tree one by one, and takes the
stream out again when one of them refuses.  If one panics, what the tree has
been given stays.
-/

set_option autoImplicit false

namespace StreamControl

/-! ## Outlines -/

namespace Outline

variable (outline : Outline) (stream : StreamId)

/-- Some filters of a stream are known and not marked. -/
def registered (names : List String) : Outline :=
  { outline with mark? := fun other name =>
      if other = stream ∧ name ∈ names then some false else outline.mark? other name }

/-- A stream is attached. -/
def attached (graph : FilterGraph) : Outline :=
  { outline.registered stream graph.names with streams := outline.streams.insert stream graph }

/-- The tree forgets a stream. -/
def forgotten : Outline :=
  { outline with mark? := fun other name =>
      if other = stream then none else outline.mark? other name }

theorem forgotten_registered (names : List String) :
    (outline.registered stream names).forgotten stream = outline.forgotten stream := by
  refine congrArg (Outline.mk outline.controllers outline.streams) ?_
  funext other name
  by_cases here : other = stream <;> simp [here, registered]

/-- A stream is detached. -/
def detached : Outline :=
  { outline.forgotten stream with streams := outline.streams.erase stream }

/-- A controller is loaded. -/
def loaded (controller : LoadedController) : Outline :=
  { outline with controllers := outline.controllers ++ [controller] }

/-- A controller is unloaded. -/
def unloaded (serial : Nat) : Outline :=
  { outline with controllers := outline.controllers.filter (·.serial ≠ serial) }

/-- A step that a controller takes on its way out does not show. -/
theorem unloaded_step (serial : Nat) (stream? : Option StreamId) (target : Phase) :
    (outline.step [serial] stream? target).unloaded serial = outline.unloaded serial := by
  refine congrArg (fun controllers => { outline with controllers }) ?_
  rw [step]
  induction outline.controllers with
  | nil => rfl
  | cons controller rest ih =>
    by_cases same : controller.serial = serial <;> simp_all

end Outline

namespace Host

open StreamControl.Action Session

variable {σ : Type}

/-! ## Constructing filters -/

/-- Whether a call is one of the construct function of a filter of a stream. -/
def IsConstruction (stream : StreamId) (visit : Visit) : Prop :=
  ∃ filter exit, visit = .filter .construct stream filter exit

/-- What becomes of a session when filters of a stream are made known and
constructed. -/
structure Registers (stream : StreamId) (names : List String) (visits : List Visit)
    (before after : Session σ) : Prop where
  /-- What was called. -/
  wrote : Wrote visits before after
  /-- Nothing but construct functions was called. -/
  constructions : ∀ visit ∈ visits, IsConstruction stream visit
  /-- The filters are known, and not marked. -/
  mark : ∀ other name, after.tree.mark? other name =
    if other = stream ∧ name ∈ names then some false else before.tree.mark? other name
  /-- Other streams have their shape. -/
  tree : before.tree.KeptBut stream after.tree
  /-- The stream is known if it was. -/
  knows : before.tree.Knows stream → after.tree.Knows stream

theorem Registers.refl (stream : StreamId) (session : Session σ) :
    Registers stream [] [] session session where
  wrote := .refl session
  constructions _ member := nomatch member
  mark other name := by rw [if_neg fun both => nomatch both.2]
  tree := (ParameterTree.Kept.refl _).but stream
  knows := id

theorem Registers.trans {stream : StreamId} {names more : List String} {visits further : List Visit}
    {first second third : Session σ} (one : Registers stream names visits first second)
    (two : Registers stream more further second third) :
    Registers stream (names ++ more) (visits ++ further) first third where
  wrote := one.wrote.trans two.wrote
  constructions visit member := by
    rcases List.mem_append.mp member with early | late
    · exact one.constructions visit early
    · exact two.constructions visit late
  mark other name := by
    rw [two.mark, one.mark]
    by_cases here : other = stream
    · by_cases early : name ∈ names <;> by_cases late : name ∈ more <;> simp [here, early, late]
    · simp [here]
  tree := one.tree.trans two.tree
  knows known := two.knows (one.knows known)

theorem registers_of_passed {stream : StreamId} {filter : String} {exit : Exit}
    {before after : Session σ}
    (passed : Passed [.filter .construct stream filter exit] before after) :
    Registers stream [] [.filter .construct stream filter exit] before after where
  wrote := passed.toWrote
  constructions visit member := ⟨filter, exit, List.mem_singleton.mp member⟩
  mark other name := by rw [if_neg (fun both => nomatch both.2), passed.tree.mark]
  tree := passed.tree.but stream
  knows known := (passed.tree.knows stream).mpr known

/-- Filters are made known and constructed in order.  If all are, their names
differ from one another. -/
theorem meets_constructFilters (code : UserCode σ) (stream : StreamId) (slots : List FilterSlot) :
    ∀ session : Session σ, (constructFilters code stream slots).Meets session
      (fun _ after => (slots.map (·.name)).Nodup ∧
        (∀ slot ∈ slots, session.tree.mark? stream slot.name = none) ∧
        Registers stream (slots.map (·.name))
          (slots.map fun slot => .filter .construct stream slot.name .succeeded) session after)
      (fun _ after => ∃ names visits, Registers stream names visits session after)
      (fun _ after => ∃ names visits, Registers stream names visits session after ∧
        ∃ filter, .filter .construct stream filter .panicked ∈ visits) := by
  induction slots with
  | nil =>
    intro session
    exact ⟨List.nodup_nil, fun _ member => (List.not_mem_nil member).elim, Registers.refl stream session⟩
  | cons slot rest ih =>
    intro session
    rw [constructFilters, meets_bind, meets_changeTree_unit]
    cases added : session.tree.addFilter stream slot.name with
    | error fault => exact ⟨[], [], Registers.refl stream session⟩
    | ok tree =>
      obtain ⟨_, free, mark⟩ := ParameterTree.mark?_addFilter added
      have known : Registers stream [slot.name] [] session
          { session with tree, journal := session.journal.push (.grown tree) } :=
        { wrote := .plant session tree
          constructions := fun _ member => nomatch member
          mark := fun other name => by simp only [mark, List.mem_singleton]
          tree := ParameterTree.keptBut_addFilter added
          knows := fun _ => ParameterTree.knows_addFilter added }
      dsimp only
      rw [meets_bind]
      refine (meets_callFilter code .construct stream slot _).mono ?_ (fun _ _ h => h.elim) ?_
      · intro result called passed
        have constructed := known.trans (registers_of_passed passed)
        rw [meets_bind, meets_ofExcept]
        cases result with
        | error fault => exact ⟨_, _, constructed⟩
        | ok value =>
          refine (ih called).mono ?_ ?_ ?_
          · rintro _ after ⟨distinct, unknown, further⟩
            have away : ∀ other ∈ rest, other.name ≠ slot.name := by
              intro other member same
              have none := unknown other member
              rw [constructed.mark, if_pos ⟨rfl, List.mem_singleton.mpr same⟩] at none
              cases none
            refine ⟨?_, ?_, constructed.trans further⟩
            · rw [List.map_cons, List.nodup_cons]
              refine ⟨fun member => ?_, distinct⟩
              obtain ⟨other, later, same⟩ := List.mem_map.mp member
              exact away other later same
            · intro other member
              rcases List.mem_cons.mp member with rfl | later
              · exact free
              · have none := unknown other later
                rw [constructed.mark, if_neg] at none
                · exact none
                · exact fun both => away other later (List.mem_singleton.mp both.2)
          · rintro _ after ⟨names, visits, further⟩
            exact ⟨_, _, constructed.trans further⟩
          · rintro _ after ⟨names, visits, further, filter, member⟩
            exact ⟨_, _, constructed.trans further, filter, List.mem_cons_of_mem _ member⟩
      · intro _ after passed
        exact ⟨_, _, known.trans (registers_of_passed passed), slot.name, List.mem_singleton.mpr rfl⟩

/-! ## Attaching and detaching -/

/-- What an attempt to attach a stream makes of a host, up to its end. -/
structure Numbers (stream : StreamId) (visits : List Visit) (outline : Outline)
    (before after : Host σ) : Prop where
  /-- The stream has the next number. -/
  number : stream.number = before.nextStream
  /-- There is a number after it. -/
  room : before.nextStream + 1 ≠ 0
  /-- The number is used up. -/
  nextStream : after.nextStream = before.nextStream + 1
  /-- What was called. -/
  wrote : Wrote visits before.session after.session
  /-- Nothing but construct functions was called. -/
  constructions : ∀ visit ∈ visits, IsConstruction stream visit
  /-- Other streams have their shape. -/
  tree : before.session.tree.KeptBut stream after.session.tree
  /-- The outline now. -/
  shape : after.outline = outline
  /-- It is set up as it was. -/
  config : after.config = before.config
  /-- Controllers are numbered on from where they were. -/
  nextSerial : after.nextSerial = before.nextSerial
  /-- It is as far shut down as it was. -/
  isShutDown : after.isShutDown = before.isShutDown

/-- Going on without calls and without a change of the outline. -/
theorem Numbers.turns {stream : StreamId} {visits : List Visit} {outline : Outline}
    {before between after : Host σ} (numbers : Numbers stream visits outline before between)
    (quiet : Turns [] between.outline between after) :
    Numbers stream visits outline before after where
  number := numbers.number
  room := numbers.room
  nextStream := quiet.nextStream.trans numbers.nextStream
  wrote := by
    have both := numbers.wrote.trans quiet.wrote
    rwa [List.append_nil] at both
  constructions := numbers.constructions
  tree := numbers.tree.trans (quiet.kept.but stream)
  shape := quiet.shape.trans numbers.shape
  config := quiet.config.trans numbers.config
  nextSerial := quiet.nextSerial.trans numbers.nextSerial
  isShutDown := quiet.isShutDown.trans numbers.isShutDown

theorem Numbers.forgets {stream : StreamId} {visits : List Visit} {outline : Outline}
    {before between : Host σ} (numbers : Numbers stream visits outline before between) :
    Numbers stream visits (outline.forgotten stream) before
      { between with session := { between.session with
          tree := between.session.tree.removeStream stream
          journal := between.session.journal.push
            (.grown (between.session.tree.removeStream stream)) } } where
  number := numbers.number
  room := numbers.room
  nextStream := numbers.nextStream
  wrote := by
    have both := numbers.wrote.trans
      (.plant between.session (between.session.tree.removeStream stream))
    rwa [List.append_nil] at both
  constructions := numbers.constructions
  tree := numbers.tree.trans (ParameterTree.keptBut_removeStream _ stream)
  shape := by
    rw [← numbers.shape]
    exact congrArg (Outline.mk between.controllers between.streams)
      (funext fun other => funext fun name => ParameterTree.mark?_removeStream _ _ _ _)
  config := numbers.config
  nextSerial := numbers.nextSerial
  isShutDown := numbers.isShutDown

theorem Registers.numbers {stream : StreamId} {names : List String} {visits : List Visit}
    {before between : Host σ} {session : Session σ} {outline : Outline}
    (numbers : Numbers stream [] outline before between)
    (registers : Registers stream names visits between.session session) :
    Numbers stream visits (outline.registered stream names) before { between with session } where
  number := numbers.number
  room := numbers.room
  nextStream := numbers.nextStream
  wrote := numbers.wrote.trans registers.wrote
  constructions := registers.constructions
  tree := numbers.tree.trans registers.tree
  shape := by
    rw [← numbers.shape]
    exact congrArg (Outline.mk between.controllers between.streams)
      (funext fun other => funext fun name => registers.mark other name)
  config := numbers.config
  nextSerial := numbers.nextSerial
  isShutDown := numbers.isShutDown

/-- Attaching a stream.  A host that has no number left panics at once; beyond
that, only the construct function of a filter does. -/
theorem meets_addStream (code : UserCode σ) (graph : FilterGraph) (host : Host σ) :
    (addStream code graph).Meets host
      (fun stream after => graph.names.Nodup ∧ after.session.tree.Knows stream ∧
        Numbers stream (graph.slots.map fun slot => .filter .construct stream slot.name .succeeded)
          (host.outline.attached stream graph) host after)
      (fun _ after => ∃ stream visits, ¬ after.session.tree.Knows stream ∧
        Numbers stream visits (host.outline.forgotten stream) host after)
      (fun _ after => host.nextStream + 1 = 0 ∧ after = host ∨ ∃ stream names visits filter,
        .filter .construct stream filter .panicked ∈ visits ∧
          Numbers stream visits (host.outline.registered stream names) host after) := by
  rw [addStream, meets_bind, takeStreamId, meets_bind, meets_get]
  dsimp only
  split
  · rename_i full
    exact .inl ⟨full, rfl⟩
  · rename_i room
    rw [meets_bind, meets_modify, meets_pure, meets_bind, onSession, meets_within, meets_changeTree]
    dsimp only
    have names : graph.slots.map (·.name) = graph.names := graph.map_name_slots
    have known : (host.session.tree.addStream ⟨host.nextStream⟩).Knows ⟨host.nextStream⟩ :=
      (ParameterTree.knows_addStream _ _ _).mpr (.inl rfl)
    generalize hstream : (⟨host.nextStream⟩ : StreamId) = stream at known ⊢
    have marks : (host.session.tree.addStream stream).mark? = host.session.tree.mark? :=
      funext fun other => funext fun name => ParameterTree.mark?_addStream _ _ _ _
    have numbered : Numbers stream [] host.outline host { host with
        nextStream := host.nextStream + 1
        session := { host.session with
          tree := host.session.tree.addStream stream
          journal := host.session.journal.push (.grown (host.session.tree.addStream stream)) } } :=
      { number := by rw [← hstream]
        room
        nextStream := rfl
        wrote := .plant host.session _
        constructions := fun _ member => (List.not_mem_nil member).elim
        tree := ParameterTree.keptBut_addStream _ _
        shape := congrArg (Outline.mk host.controllers host.streams) marks
        config := rfl
        nextSerial := rfl
        isShutDown := rfl }
    rw [meets_bind, onSession, meets_within, meets_attempt]
    refine (meets_constructFilters code stream graph.slots _).mono ?_ ?_ ?_
    · rintro _ session ⟨distinct, _, registers⟩
      rw [names] at distinct registers
      have constructed := registers.numbers numbered
      refine (Turns.refl _).next (visits_onSession (Calls.log _ _)) fun _ logged turns => ?_
      rw [meets_bind, meets_modify, meets_pure]
      have all := constructed.turns turns
      have shape := congrArg (fun outline : Outline =>
        { outline with streams := outline.streams.insert stream graph }) all.shape
      exact ⟨distinct, (turns.tree.knows stream).mpr (registers.knows known),
        { all with shape := shape }⟩
    · rintro fault session ⟨filters, visits, registers⟩
      have removed := (registers.numbers numbered).forgets
      rw [Outline.forgotten_registered] at removed
      rw [meets_bind, onSession, meets_within, meets_changeTree]
      refine (Turns.refl _).next (visits_onSession (Calls.log _ _)) fun _ logged turns => ?_
      rw [meets_refuse]
      refine ⟨stream, visits, fun still => ?_, removed.turns turns⟩
      exact ((ParameterTree.knows_removeStream _ _ _).mp ((turns.tree.knows stream).mp still)).1 rfl
    · rintro _ session ⟨filters, visits, registers, filter, member⟩
      exact .inr ⟨stream, filters, visits, filter, member, registers.numbers numbered⟩

/-- What detaching a stream makes of a host. -/
structure Detaches (stream : StreamId) (before after : Host σ) : Prop where
  /-- Nothing was called. -/
  wrote : Wrote [] before.session after.session
  /-- Other streams have their shape. -/
  tree : before.session.tree.KeptBut stream after.session.tree
  /-- The stream is not known any more. -/
  forgotten : ¬ after.session.tree.Knows stream
  /-- The outline now. -/
  shape : after.outline = before.outline.detached stream
  /-- It is set up as it was. -/
  config : after.config = before.config
  /-- Streams are numbered on from where they were. -/
  nextStream : after.nextStream = before.nextStream
  /-- Controllers are numbered on from where they were. -/
  nextSerial : after.nextSerial = before.nextSerial
  /-- It is as far shut down as it was. -/
  isShutDown : after.isShutDown = before.isShutDown

theorem meets_removeStream (code : UserCode σ) (stream : StreamId) (host : Host σ) :
    (removeStream code stream).Meets host
      (fun graph after => host.stream? stream = some graph ∧ graph.flow = .idle ∧
        Detaches stream host after)
      (fun _ after => after = host) (fun _ _ => False) := by
  rw [removeStream, meets_bind, Host.attached, meets_bind, meets_get]
  cases found : host.stream? stream with
  | none => rfl
  | some graph =>
    dsimp only
    rw [meets_pure]
    cases flow : graph.flow with
    | running => rfl
    | idle =>
      dsimp only
      rw [meets_bind, meets_modify, meets_bind, onSession, meets_within, meets_changeTree]
      refine (Turns.refl _).next (visits_onSession (Calls.drain code)) fun _ _ turns => ?_
      refine turns.next (visits_onSession (Calls.log _ _)) fun _ after turns => ?_
      refine ⟨rfl, flow, ?_⟩
      have marks : (host.session.tree.removeStream stream).mark? = _ :=
        funext fun other => funext fun name => ParameterTree.mark?_removeStream _ _ _ _
      exact
        { wrote := (Wrote.plant host.session _).trans turns.wrote
          tree := (ParameterTree.keptBut_removeStream _ stream).trans (turns.kept.but stream)
          forgotten := fun still => ((ParameterTree.knows_removeStream _ _ _).mp
            ((turns.tree.knows stream).mp still)).1 rfl
          shape := turns.shape.trans
            (congrArg (Outline.mk host.controllers (host.streams.erase stream)) marks)
          config := turns.config
          nextStream := turns.nextStream
          nextSerial := turns.nextSerial
          isShutDown := turns.isShutDown }

/-! ## Loading and unloading -/

theorem Turns.joined {visits : List Visit} {outline : Outline} {before between : Host σ}
    (turns : Turns visits outline before between) (controller : LoadedController) :
    Turns visits (outline.loaded controller) before
      { between with controllers := between.controllers ++ [controller] } :=
  { turns with shape := congrArg (·.loaded controller) turns.shape }

theorem Turns.left {visits : List Visit} {outline : Outline} {before between : Host σ}
    (turns : Turns visits outline before between) (serial : Nat) :
    Turns visits (outline.unloaded serial) before
      { between with controllers := between.controllers.filter (·.serial ≠ serial) } :=
  { turns with shape := congrArg (·.unloaded serial) turns.shape }

/-- What loading a controller makes of a host. -/
structure Loads (controller : LoadedController) (before after : Host σ) : Prop where
  /-- The controller has the next serial number. -/
  serial : controller.serial = before.nextSerial
  /-- It is constructed. -/
  phase : controller.phase = .constructed
  /-- It has seen no stream. -/
  streamPhases : controller.streamPhases = .empty
  /-- What happened. -/
  turns : Turns (plainCall controller .construct) (before.outline.loaded controller)
    { before with nextSerial := before.nextSerial + 1 } after

/-- Loading a controller.  If its construct hook fails, the serial number is
used up all the same. -/
theorem meets_load (code : UserCode σ) (path : String) (requested : Option String)
    (module : ControllerModule) (arguments : List String) (host : Host σ) :
    (load code path requested module arguments).Meets host
      (fun name after => ∃ controller, controller.name = name ∧ Loads controller host after)
      (fun _ after => after = host ∨ ∃ controller : LoadedController,
        controller.serial = host.nextSerial ∧
          Turns (plainCall controller .construct) host.outline
            { host with nextSerial := host.nextSerial + 1 } after)
      (fun _ _ => False) := by
  rw [load, meets_bind, meets_get, meets_bind, meets_ofExcept]
  split
  · rename_i name _
    rw [meets_bind, takeSerial, meets_bind, meets_get, meets_bind, meets_modify, meets_pure]
    dsimp only
    generalize hcontroller : ({ serial := host.nextSerial, name, path, module } :
      LoadedController) = controller
    have serial : controller.serial = host.nextSerial := by rw [← hcontroller]
    have fresh : controller.streamPhases = .empty := by rw [← hcontroller]
    have phase : controller.standing none = .unconstructed := by rw [← hcontroller]; rfl
    have named : controller.name = name := by rw [← hcontroller]
    rw [meets_bind]
    refine (visits_onSession (calls_construct code _ controller arguments) _).always
      fun status constructed turns => ?_
    cases status with
    | failed failure =>
      refine turns.next (visits_onSession (Calls.count _ _ _)) fun _ _ turns => ?_
      refine turns.next (visits_onSession (Calls.log _ _)) fun _ _ turns => ?_
      exact turns.next (visits_onSession (Calls.emit _)) fun _ _ turns =>
        .inr ⟨controller, serial, turns⟩
    | ok =>
      dsimp only
      rw [LoadedController.advance_eq, phase, if_pos (by rfl), meets_bind, meets_ofExcept]
      refine turns.next (visits_onSession (Calls.after (Calls.record rfl) fun _ => Calls.emit _))
        fun _ announced turns => ?_
      rw [meets_bind, meets_modify]
      have joined := turns.joined (controller.moved none .constructed)
      refine joined.next (visits_onSession (Calls.log _ _)) fun _ _ turns => ?_
      exact turns.next (visits_onSession (Calls.emit _)) fun _ _ turns =>
        ⟨controller.moved none .constructed, named, serial, rfl, fresh, turns⟩
  · exact .inl rfl

/-- Unloading a controller.  It is refused only for a stream with which the
controller is inside a cycle. -/
theorem meets_unload (code : UserCode σ) (name : String) {host : Host σ}
    (nodup : host.outline.serials.Nodup)
    (destroyable : ∀ controller ∈ host.controllers, controller.activeStreams = [] →
      controller.phase.canBecome .destroyed = true) :
    (unload code name).Meets host
      (fun _ after => ∃ controller, host.controller? name = some controller ∧
        controller.activeStreams = [] ∧
        Turns (plainCall controller .destroy) (host.outline.unloaded controller.serial) host after)
      (fun fault after => after = host ∧
        ∀ controller, host.controller? name = some controller →
          ∃ stream rest, controller.activeStreams = stream :: rest ∧ fault = .streamRunning stream)
      (fun _ _ => False) := by
  rw [unload, meets_bind, Host.loaded, meets_bind, meets_get]
  cases found : host.controller? name with
  | none => exact ⟨rfl, fun _ impossible => nomatch impossible⟩
  | some controller =>
    dsimp only
    rw [meets_pure]
    cases active : controller.activeStreams with
    | cons stream rest =>
      refine ⟨rfl, fun other same => ?_⟩
      cases same
      exact ⟨stream, rest, active, rfl⟩
    | nil =>
      have member : controller ∈ host.controllers := List.mem_of_find?_eq_some found
      dsimp only
      rw [meets_bind, meets_get, meets_bind]
      refine (visits_onSession (calls_destroy code _ controller) host).always
        fun status destroyed turns => ?_
      -- What follows is the same whether or not the hook failed.
      have finish : ∀ between : Host σ, Turns (plainCall controller .destroy) host.outline host between →
          (do
            advance controller.serial none .destroyed
            modify fun host =>
              { host with controllers := host.controllers.filter (·.serial ≠ controller.serial) }
            onSession (Session.log .info "controller unloaded")
            onSession (Session.emit (.controllerUnloaded name)) : Action (Host σ) Unit).Meets between
            (fun _ after => ∃ controller', some controller = some controller' ∧
              controller'.activeStreams = [] ∧
              Turns (plainCall controller' .destroy) (host.outline.unloaded controller'.serial) host
                after)
            (fun fault after => after = host ∧
              ∀ controller', some controller = some controller' →
                ∃ stream rest, controller'.activeStreams = stream :: rest ∧
                  fault = .streamRunning stream)
            (fun _ _ => False) := by
        intro between turns
        have loaded : between.controllers = host.controllers :=
          congrArg Outline.controllers turns.shape
        rw [meets_bind]
        refine (meets_advance ?_ (loaded ▸ member) none .destroyed).mono ?_ ?_
          (fun _ _ h => h)
        · rwa [turns.shape]
        · rintro _ stepped ⟨_, step⟩
          rw [turns.shape] at step
          have left := (turns.trans step).left controller.serial
          rw [List.append_nil, Outline.unloaded_step] at left
          rw [meets_bind, meets_modify]
          refine left.next (visits_onSession (Calls.log _ _)) fun _ _ turns => ?_
          exact (turns.meets (visits_onSession (Calls.emit _))).always fun _ after turns =>
            ⟨controller, rfl, active, by rwa [List.append_nil] at turns⟩
        · rintro _ _ ⟨blocked, _⟩
          rw [LoadedController.standing, destroyable controller member active] at blocked
          cases blocked
      cases status with
      | ok => exact finish destroyed turns
      | failed failure =>
        exact turns.next (visits_onSession (calls_reportHookFailure _ _ _ _)) fun _ between turns =>
          finish between turns

/-! ## What changes no outline -/

theorem meets_help (code : UserCode σ) (name : String) (host : Host σ) :
    (help code name).Meets host
      (fun _ after => ∃ visits, (∀ visit ∈ visits, ∃ serial, visit = .hook serial .help none) ∧
        Turns visits host.outline host after)
      (fun _ _ => False) (fun _ _ => False) := by
  rw [help, meets_bind, meets_get]
  cases host.controller? name with
  | none => exact ⟨[], fun _ member => (List.not_mem_nil member).elim, Turns.refl host⟩
  | some controller =>
    dsimp only
    split
    · exact (visits_onSession (calls_guarded code _ _ _ _ _) host).imp fun _ _ turns =>
        ⟨_, fun visit member => ⟨controller.serial, List.mem_singleton.mp member⟩, turns⟩
    · exact ⟨[], fun _ member => (List.not_mem_nil member).elim, Turns.refl host⟩

/-- A program that runs outside makes no calls of its own. -/
theorem meets_outside (code : UserCode σ) (program : Program σ Unit) (host : Host σ) :
    (onSession (code.run program)).Meets host (fun _ => Turns [] host.outline host)
      (fun _ _ => False) (fun _ => Turns [] host.outline host) :=
  meets_within.mpr (((kept_lax host.session).keeps_run code program host.session (.refl _)).mono
    (fun _ _ kept => turns_of_passed kept.passed) (fun _ _ h => h.1)
    (fun _ _ kept => turns_of_passed kept.2.passed))

/-! ## Shutting down -/

/-- A stream runs, and none with a smaller number does. -/
def LeastRunning (host : Host σ) (stream : StreamId) : Prop :=
  host.Runs stream ∧ ∀ other, host.Runs other → stream ≤ other

theorem mem_runningStreams {host : Host σ} {stream : StreamId} :
    stream ∈ host.runningStreams ↔ host.Runs stream := by
  simp only [runningStreams, List.mem_map, List.mem_filter, Prod.exists, decide_eq_true_eq]
  constructor
  · rintro ⟨other, graph, ⟨member, running⟩, rfl⟩
    exact ⟨graph, OrderedMap.mem_entries_iff.mp member, running⟩
  · rintro ⟨graph, found, running⟩
    exact ⟨stream, graph, ⟨OrderedMap.mem_entries_iff.mpr found, running⟩, rfl⟩

/-- The running streams are listed in the order of their numbers. -/
theorem pairwise_runningStreams (host : Host σ) : host.runningStreams.Pairwise (· < ·) := by
  rw [runningStreams, List.pairwise_map]
  exact host.streams.increasing.filter _

/-- A property that everything a shutdown is made of keeps, and what is left of
it when a stop breaks off. -/
structure Withstands (code : UserCode σ) (P : Host σ → Prop) (Q : StreamId → Host σ → Prop) :
    Prop where
  /-- What calls nothing and changes no outline. -/
  quiet : ∀ {before after : Host σ}, P before → Turns [] before.outline before after → P after
  /-- The note that the host is shut down. -/
  note : ∀ {host : Host σ}, P host → P { host with isShutDown := true }
  /-- The end of the session. -/
  close : ∀ {host : Host σ}, P host → P { host with session := host.session.close }
  /-- The end of the session after a stop has broken off. -/
  closeBroken : ∀ {stream : StreamId} {host : Host σ}, Q stream host →
    Q stream { host with session := host.session.close }
  /-- A stop. -/
  stop : ∀ {host : Host σ} (stream : StreamId), P host → (Host.stop code stream).Meets host
    (fun _ after => P after ∧ ∀ other, after.Runs other ↔ host.Runs other ∧ other ≠ stream)
    (fun _ after => after = host ∧ ¬ host.Runs stream)
    (fun _ after => Q stream after ∧ host.Runs stream ∧
      ∀ other, after.Runs other ↔ host.Runs other)
  /-- An unload. -/
  unload : ∀ {host : Host σ} (name : String), P host → (Host.unload code name).Meets host
    (fun _ => P) (fun _ => P) (fun _ _ => False)

section Shutdown

variable {code : UserCode σ} {P : Host σ → Prop} {Q : StreamId → Host σ → Prop}
  (withstands : Withstands code P Q)
include withstands

/-- Stops go through the running streams in the order of their numbers, so that
a stop that breaks off leaves no running stream with a smaller number.  In the end
none runs. -/
theorem Withstands.meets_stopAll (streams : List StreamId) :
    ∀ {host : Host σ}, P host → streams.Pairwise (· < ·) →
      (∀ stream, host.Runs stream → stream ∈ streams) →
      (stopAll code streams).Meets host (fun _ after => P after ∧ ∀ stream, ¬ after.Runs stream)
        (fun _ _ => False)
        (fun _ after => ∃ stream, after.LeastRunning stream ∧ Q stream after) := by
  induction streams with
  | nil =>
    intro host holds _ all
    exact ⟨holds, fun stream running => List.not_mem_nil (all stream running)⟩
  | cons stream rest ih =>
    intro host holds increasing all
    rw [List.pairwise_cons] at increasing
    rw [stopAll, meets_bind, meets_attempt]
    refine (withstands.stop stream holds).mono ?_ ?_ ?_
    · rintro report after ⟨still, runs⟩
      refine ih still increasing.2 fun other running => ?_
      obtain ⟨before, away⟩ := (runs other).mp running
      exact (List.mem_cons.mp (all other before)).resolve_left away
    · rintro fault _ ⟨rfl, idle⟩
      refine (Turns.refl _).next (visits_onSession (Calls.log _ _)) fun _ after turns => ?_
      have streams := congrArg Outline.streams turns.shape
      refine ih (withstands.quiet holds turns) increasing.2 fun other running => ?_
      rw [runs_of_streams streams] at running
      refine (List.mem_cons.mp (all other running)).resolve_left ?_
      rintro rfl
      exact idle running
    · rintro reason after ⟨broken, running, runs⟩
      refine ⟨stream, ⟨(runs stream).mpr running, fun other here => ?_⟩, broken⟩
      rcases List.mem_cons.mp (all other ((runs other).mp here)) with rfl | later
      · exact Std.le_refl _
      · exact Std.le_of_lt (increasing.1 other later)

theorem Withstands.meets_unloadAll (names : List String) :
    ∀ {host : Host σ}, P host → (unloadAll code names).Meets host (fun _ => P)
      (fun _ _ => False) (fun _ _ => False) := by
  induction names with
  | nil =>
    intro host holds
    exact holds
  | cons name rest ih =>
    intro host holds
    rw [unloadAll, meets_bind, meets_attempt]
    refine (withstands.unload name holds).mono ?_ ?_ (fun _ _ h => h)
    · intro _ after still
      exact ih still
    · intro fault after still
      exact (Turns.refl _).next (visits_onSession (Calls.log _ _)) fun _ logged turns =>
        ih (withstands.quiet still turns)

/-- A host that has not been shut down yet stops the running streams and unloads the
controllers, and what is left then is what the shutdown leaves. -/
theorem Withstands.meets_shutdown_of {R : Host σ → Prop} {host : Host σ}
    (unloaded : ∀ between : Host σ, P between → (∀ stream, ¬ between.Runs stream) →
      (unloadAll code between.controllerNames.reverse).Meets between (fun _ => R)
        (fun _ _ => False) (fun _ _ => False))
    (quiet : ∀ {before after : Host σ}, R before → Turns [] before.outline before after → R after)
    (up : host.isShutDown = false) (holds : P host) :
    (shutdown code).Meets host (fun _ => R) (fun _ _ => False)
      (fun _ after => ∃ stream, after.LeastRunning stream ∧ Q stream after) := by
  rw [shutdown, meets_bind, meets_get, if_neg (by rw [up]; exact Bool.false_ne_true), meets_bind,
    meets_modify, meets_bind]
  refine (withstands.meets_stopAll _ (withstands.note holds) (pairwise_runningStreams host)
    fun stream running => mem_runningStreams.mpr running).mono ?_ (fun _ _ h => h)
    (fun _ _ h => h)
  rintro _ stopped ⟨still, idle⟩
  rw [meets_bind, meets_get, meets_bind]
  refine (unloaded stopped still idle).always fun _ emptied rest => ?_
  refine (Turns.refl _).next (visits_onSession Calls.discardWaiting) fun dropped _ turns => ?_
  have finish : ∀ between : Host σ, Turns [] emptied.outline emptied between →
      (onSession (Session.log .debug "control host shut down") : Action (Host σ) Unit).Meets
        between (fun _ => R) (fun _ _ => False)
        (fun _ after => ∃ stream, after.LeastRunning stream ∧ Q stream after) := by
    intro between turns
    exact (turns.meets (visits_onSession (Calls.log _ _))).always fun _ _ turns => quiet rest turns
  dsimp only
  split
  · exact turns.next (visits_onSession (Calls.log _ _)) fun _ between turns => finish between turns
  · exact finish _ turns

theorem Withstands.meets_shutdown {host : Host σ} (holds : P host) :
    (shutdown code).Meets host (fun _ => P) (fun _ _ => False)
      (fun _ after => ∃ stream, after.LeastRunning stream ∧ Q stream after) := by
  cases down : host.isShutDown with
  | true =>
    rw [shutdown, meets_bind, meets_get, if_pos down]
    exact holds
  | false =>
    exact withstands.meets_shutdown_of (fun _ still _ => withstands.meets_unloadAll _ still)
      withstands.quiet down holds

/-- A drop is a shutdown after which the session is closed. -/
theorem Withstands.meets_drop {host : Host σ} (holds : P host) :
    (drop code).Meets host (fun _ => P) (fun _ _ => False)
      (fun _ after => ∃ stream, after.LeastRunning stream ∧ Q stream after) := by
  rw [drop, meets_bind, meets_contain]
  refine (withstands.meets_shutdown holds).mono ?_ (fun _ _ h => h) ?_
  · intro _ after still
    exact withstands.close still
  · rintro reason after ⟨stream, least, broken⟩
    exact ⟨stream, least, withstands.closeBroken broken⟩

end Shutdown

end Host

end StreamControl
