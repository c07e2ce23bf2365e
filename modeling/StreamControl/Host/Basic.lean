import StreamControl.FilterGraph
import StreamControl.Session.Run

/-!
# Hosts

A host loads controllers and drives streams.  It keeps its controllers in
the order they were loaded and its streams by number, and it owns a session,
through which user code reaches the parameters.

This module holds the host's state, what can be read off it, and the small
changes the host's operations are made of.  The operations themselves are in
the modules beside it: attaching and detaching streams, loading and unloading
controllers, starting, stopping, and shutting down.
-/

set_option autoImplicit false

namespace StreamControl

/-- The version of the host, as it tells user code. -/
def version : String := "0.3.0"

/-! ## Loaded controllers -/

/-- A controller, from its construction on. -/
structure LoadedController where
  /-- Tells the controller apart from every other one of the same host. -/
  serial : Nat
  /-- The name it is registered under. -/
  name : String
  /-- The path it was loaded from. -/
  path : String
  /-- Its module. -/
  module : ControllerModule
  /-- The phase after its last step, with whichever stream. -/
  phase : Phase := .unconstructed
  /-- Its phase with every stream it has seen start. -/
  streamPhases : OrderedMap StreamId Phase := .empty
  deriving DecidableEq, Inhabited

namespace LoadedController

/-- The phase from which a step is taken: that with one stream, which is
`constructed` until the controller has seen the stream start, or that of the
controller as a whole. -/
def standing (controller : LoadedController) : Option StreamId → Phase
  | some stream => (controller.streamPhases.find? stream).getD .constructed
  | none => controller.phase

/-- Takes a step with one stream or as a whole, and gives the phase left. -/
def advance (controller : LoadedController) (stream : Option StreamId) (target : Phase) :
    Except Fault (Phase × LoadedController) :=
  let origin := controller.standing stream
  if origin.canBecome target then
    .ok (origin,
      { controller with
        phase := target
        streamPhases := match stream with
          | some stream => controller.streamPhases.insert stream target
          | none => controller.streamPhases })
  else .error (.invalidTransition origin target)

/-- The streams with which the controller is inside a cycle. -/
def activeStreams (controller : LoadedController) : List StreamId :=
  (controller.streamPhases.entries.filter (·.2.isActive)).map (·.1)

end LoadedController

/-! ## The state of a host -/

/-- A host. -/
structure Host (σ : Type) where
  /-- How the host is set up. -/
  config : Config
  /-- The loaded controllers, in load order. -/
  controllers : List LoadedController := []
  /-- The attached streams. -/
  streams : OrderedMap StreamId FilterGraph := .empty
  /-- The number of the next stream. -/
  nextStream : UInt32 := 1
  /-- The serial number of the next controller. -/
  nextSerial : Nat := 0
  /-- Whether the host has been shut down. -/
  isShutDown : Bool := false
  /-- What user code can reach. -/
  session : Session σ

namespace Host

variable {σ α : Type}

/-- A host without streams or controllers that sends events to a channel. -/
def onChannel (channel : Broadcast Event) (config : Config) (memory : σ) : Host σ :=
  { config, session := { channel, memory } }

/-- A new host, unless there cannot be a channel of the capacity it is to
have. -/
def create (config : Config) (memory : σ) : Except CapacityProblem (Host σ) := do
  return onChannel (← Broadcast.create config.eventCapacity) config memory

/-! ## Reading -/

/-- The loaded controller of a name. -/
def controller? (host : Host σ) (name : String) : Option LoadedController :=
  host.controllers.find? (·.name = name)

/-- The names of the loaded controllers, in load order. -/
def controllerNames (host : Host σ) : List String := host.controllers.map (·.name)

/-- The phase of a controller after its last step. -/
def controllerPhase (host : Host σ) (name : String) : Option Phase :=
  (host.controller? name).map (·.phase)

/-- The phase of a controller with one stream, once it has seen it start. -/
def controllerStreamPhase (host : Host σ) (name : String) (stream : StreamId) : Option Phase :=
  (host.controller? name).bind (·.streamPhases.find? stream)

/-- The path a controller was loaded from. -/
def controllerPath (host : Host σ) (name : String) : Option String :=
  (host.controller? name).map (·.path)

/-- The attached stream of a number. -/
def stream? (host : Host σ) (stream : StreamId) : Option FilterGraph := host.streams.find? stream

/-- How many queries wait for their filters to start. -/
def pendingQueries (host : Host σ) : Nat := host.session.waiting.length

/-- How a host is shown. -/
def describe (host : Host σ) : String :=
  "ControlHost \x7b controllers: ControllerRegistry \x7b controllers: " ++
    Text.quoteList host.controllerNames ++ " \x7d, streams: " ++ toString host.streams.size ++
    ", pending_queries: " ++ toString host.pendingQueries ++ ", store: " ++
    host.session.tree.describe ++ " \x7d"

/-! ## Small changes -/

/-- Does something to the session. -/
def onSession (action : Action (Session σ) α) : Action (Host σ) α :=
  action.within (·.session) fun session host => { host with session }

/-- Changes the filter graph of a stream. -/
def modifyStream (stream : StreamId) (change : FilterGraph → FilterGraph) :
    Action (Host σ) Unit :=
  modify fun host => { host with streams := host.streams.modify stream change }

/-- The filter graph of an attached stream, or a refusal. -/
def attached (stream : StreamId) : Action (Host σ) FilterGraph := do
  match (← get).stream? stream with
  | some graph => return graph
  | none => Action.refuse (.unknownStream stream)

/-- Puts a controller back in its place. -/
def replaceController (controller : LoadedController) : Action (Host σ) Unit :=
  modify fun host =>
    { host with controllers := host.controllers.map fun other =>
        if other.serial = controller.serial then controller else other }

/-- Announces a step of a controller. -/
def announceStep (controller : LoadedController) (stream : Option StreamId)
    (origin target : Phase) : Action (Session σ) Unit := do
  Session.record (.advanced controller.serial stream origin target)
  Session.emit (.lifecycleChanged controller.name stream origin target)

/-- Lets the loaded controller with a serial number take a step with one
stream or as a whole, and announces it. -/
def advance (serial : Nat) (stream : Option StreamId) (target : Phase) :
    Action (Host σ) Unit := do
  match (← get).controllers.find? (·.serial = serial) with
  | none => pure ()
  | some controller =>
    let (origin, changed) ← Action.ofExcept (controller.advance stream target)
    replaceController changed
    onSession (announceStep changed stream origin target)

end Host

end StreamControl
